import ValueTrace.Proofs.Inspector.Delivery

/-!
# Requests and what answers them

The response that answers a request is the first one with its number that arrives while the request
is expected.  Here this response is found in a sequence of operations, and it is shown that what
happens to the requests of a connection does not depend on who else listens
(`SameRequests.run`), nor on a frame that answers none of them (`sameRequests_dispatch`).

## Main definitions

* `Connection.firstReply?` : the response that answers a request.
* `Response.outcomeFor` : what the caller gets from it.
* `SameRequests` : two connections with the same requests.

## Main results

* `Connection.exists_of_firstReply?_eq_some` : what that response is.
* `SameRequests.run` : other listeners do not matter.
-/

namespace ValueTrace.Inspector

open Json (Value)

/-- What the caller of a method gets from a response. -/
def Response.outcomeFor (r : Response) (method : String) : Except TransportError Value :=
  r.outcome.mapError (TransportError.ofBody method)

/-- A caller that gets a result gets it from a successful response. -/
theorem Response.outcome_of_outcomeFor {r : Response} {method : String} {result : Value}
    (h : r.outcomeFor method = .ok result) : r.outcome = .ok result := by
  rw [Response.outcomeFor] at h
  cases hr : r.outcome with
  | error body =>
    rw [hr] at h
    cases h
  | ok found =>
    rw [hr] at h
    exact congrArg Except.ok (Except.ok.inj h)

namespace Connection

/-! ### The response that answers a request -/

/-- The response with an id that a frame is, if the request with that id is expected. -/
def replyOf? (c : Connection) (id : RequestId) : Inbound → Option Response
  | .response r => if r.id = id ∧ c.registry.isExpected id then some r else none
  | .notification _ => none

/-- The response with an id that an operation brings while the request with that id is expected. -/
def replyIn? (c : Connection) (id : RequestId) : Operation → Option Response
  | .receive text =>
    match Inbound.ofText? text with
    | .ok m => c.replyOf? id m
    | .error _ => none
  | _ => none

/-- The first response with an id that arrives while the request with that id is expected. -/
def firstReply? (c : Connection) (id : RequestId) : List Operation → Option Response
  | [] => none
  | operation :: rest => (c.replyIn? id operation).or ((c.apply operation).firstReply? id rest)

theorem run_append (c : Connection) (first second : List Operation) :
    c.run (first ++ second) = (c.run first).run second :=
  List.foldl_append

theorem run_concat (c : Connection) (operations : List Operation) (operation : Operation) :
    c.run (operations ++ [operation]) = (c.run operations).apply operation := by
  rw [run_append]
  rfl

theorem firstReply?_append (c : Connection) (id : RequestId) (first second : List Operation) :
    c.firstReply? id (first ++ second) =
      (c.firstReply? id first).or ((c.run first).firstReply? id second) := by
  induction first generalizing c with
  | nil => rfl
  | cons operation first ih =>
    rw [List.cons_append, firstReply?, ih, firstReply?, Option.or_assoc]
    rfl

theorem firstReply?_concat (c : Connection) (id : RequestId) (operations : List Operation)
    (operation : Operation) :
    c.firstReply? id (operations ++ [operation]) =
      (c.firstReply? id operations).or ((c.run operations).replyIn? id operation) := by
  rw [firstReply?_append, firstReply?, firstReply?, Option.or_none]

theorem replyOf?_eq_some_iff {c : Connection} {id : RequestId} {m : Inbound} {r : Response} :
    c.replyOf? id m = some r ↔
      m = .response r ∧ r.id = id ∧ c.registry.isExpected id = true := by
  cases m with
  | notification n => simp [replyOf?]
  | response answer =>
    simp only [replyOf?, Option.ite_none_right_eq_some, Option.some.injEq, Inbound.response.injEq]
    constructor
    · rintro ⟨hr, rfl⟩
      exact ⟨rfl, hr⟩
    · rintro ⟨rfl, hr⟩
      exact ⟨hr, rfl⟩

theorem replyIn?_eq_some_iff {c : Connection} {id : RequestId} {operation : Operation}
    {r : Response} :
    c.replyIn? id operation = some r ↔ ∃ text, operation = .receive text ∧
      Inbound.ofText? text = .ok (.response r) ∧ r.id = id ∧
      c.registry.isExpected id = true := by
  cases operation with
  | receive text =>
    cases ht : Inbound.ofText? text with
    | error e => simp [replyIn?, ht]
    | ok m => simp [replyIn?, ht, replyOf?_eq_some_iff]
  | _ => simp [replyIn?]

/-- The answer to a request is the first response with its number that came when the request was
expected. -/
theorem exists_of_firstReply?_eq_some {c : Connection} {id : RequestId}
    {operations : List Operation} {r : Response} (h : c.firstReply? id operations = some r) :
    ∃ before text after, operations = before ++ .receive text :: after ∧
      c.firstReply? id before = none ∧ Inbound.ofText? text = .ok (.response r) ∧ r.id = id ∧
      (c.run before).registry.isExpected id = true := by
  induction operations generalizing c with
  | nil => simp [firstReply?] at h
  | cons operation rest ih =>
    rw [firstReply?, Option.or_eq_some_iff] at h
    rcases h with h | ⟨hnone, h⟩
    · obtain ⟨text, rfl, ht, hid, hexpected⟩ := replyIn?_eq_some_iff.1 h
      exact ⟨[], text, rest, rfl, rfl, ht, hid, hexpected⟩
    · obtain ⟨before, text, after, rfl, hbefore, ht, hid, hexpected⟩ := ih h
      refine ⟨operation :: before, text, after, rfl, ?_, ht, hid, hexpected⟩
      rw [firstReply?, hnone, hbefore]
      rfl

/-! ### The request with a number -/

theorem call?_updateCall (c : Connection) (id other : RequestId) {f : Call → Call}
    (hf : ∀ call, (f call).id = call.id) :
    (c.updateCall id f).call? other =
      if other = id then (c.call? other).map f else c.call? other := by
  have hpred : ((fun call : Call => decide (call.id = other)) ∘ fun call =>
      if call.id = id then f call else call) = fun call => decide (call.id = other) := by
    funext call
    rw [Function.comp_apply]
    by_cases hid : call.id = id
    · rw [if_pos hid, hf]
    · rw [if_neg hid]
  rw [call?, call?, updateCall, List.find?_map, hpred]
  cases hfound : c.calls.find? fun call => call.id = other with
  | none => rw [Option.map_none, Option.map_none, ite_self]
  | some call =>
    have hid : call.id = other := by simpa using List.find?_some hfound
    rw [Option.map_some, Option.map_some, hid]
    exact apply_ite some _ _ _

/-! ### What a frame and the end of the connection do to the requests -/

theorem calls_dispatch_of_none {c : Connection} {m : Inbound} (h : c.registry.reply? m = none) :
    (c.dispatch m).calls = c.calls := by
  simp [dispatch, deliverReply, h]

theorem calls_dispatch_of_some {c : Connection} {m : Inbound} {id : RequestId}
    {outcome : Except TransportError Value} (h : c.registry.reply? m = some (id, outcome)) :
    (c.dispatch m).calls =
      c.calls.map fun call => if call.id = id then call.reply outcome else call := by
  simp [dispatch, deliverReply, h, updateCall]

/-- Leaving an answer changes nothing but the requests. -/
theorem deliverReply_eq (c : Connection)
    (reply : Option (RequestId × Except TransportError Value)) :
    ∃ calls, c.deliverReply reply = { c with calls } := by
  cases reply with
  | none => exact ⟨c.calls, rfl⟩
  | some answered => exact ⟨_, rfl⟩

/-- A dispatch changes nothing but the registry, the requests' answers, and what waiters and
observers got. -/
theorem dispatch_eq (c : Connection) (m : Inbound) :
    (c.dispatch m).requestBound = c.requestBound ∧ (c.dispatch m).lastRequest = c.lastRequest ∧
      (c.dispatch m).written = c.written ∧
      (c.dispatch m).registry = (c.registry.dispatch m).registry ∧
      (c.dispatch m).held = c.held ++ (c.registry.dispatch m).takers.map fun id => (id, m) := by
  rw [dispatch]
  obtain ⟨calls, heq⟩ := deliverReply_eq _ (c.registry.dispatch m).reply
  rw [heq]
  exact ⟨rfl, rfl, rfl, rfl, rfl⟩

end Connection

/-! ### Connections with the same requests -/

/-- The two connections have the same requests, whoever listens to them. -/
structure SameRequests (c d : Connection) : Prop where
  requestBound : c.requestBound = d.requestBound
  pending : c.registry.pending = d.registry.pending
  closed : c.registry.closed = d.registry.closed
  lastRequest : c.lastRequest = d.lastRequest
  calls : c.calls = d.calls
  written : c.written = d.written

theorem sameRequests_subscribe (c : Connection) (accepts : Inbound → Bool) :
    SameRequests c (c.subscribe accepts).1 := by
  constructor <;> simp only [Connection.subscribe, Registry.registerOnce] <;> split <;> rfl

theorem sameRequests_take (c : Connection) (id : SubscriptionId) :
    SameRequests c (c.take id).1 := by
  rw [Connection.take]
  split <;> exact ⟨rfl, rfl, rfl, rfl, rfl, rfl⟩

/-- A frame that answers no request leaves the requests as they are. -/
theorem sameRequests_dispatch {c : Connection} {m : Inbound} (h : c.registry.reply? m = none) :
    SameRequests c (c.dispatch m) := by
  obtain ⟨hbound, hlast, hwritten, hregistry, -⟩ := c.dispatch_eq m
  refine ⟨hbound.symm, ?_, ?_, hlast.symm, (Connection.calls_dispatch_of_none h).symm,
    hwritten.symm⟩
  · rw [hregistry, Registry.pending_dispatch, eq_comm, List.filter_eq_self]
    intro p hp
    have hexpected := (Registry.isExpected_iff _ p.id).2 ⟨p, hp, rfl⟩
    refine decide_eq_true fun hid => ?_
    rw [(Registry.reply?_eq_none_iff _ _).1 h p.id hid] at hexpected
    exact Bool.false_ne_true hexpected
  · rw [hregistry, Registry.closed_dispatch]

namespace SameRequests

variable {c d e : Connection}

theorem symm (h : SameRequests c d) : SameRequests d c :=
  ⟨h.requestBound.symm, h.pending.symm, h.closed.symm, h.lastRequest.symm, h.calls.symm,
    h.written.symm⟩

theorem trans (h : SameRequests c d) (h' : SameRequests d e) : SameRequests c e :=
  ⟨h.requestBound.trans h'.requestBound, h.pending.trans h'.pending, h.closed.trans h'.closed,
    h.lastRequest.trans h'.lastRequest, h.calls.trans h'.calls, h.written.trans h'.written⟩

theorem isExpected (h : SameRequests c d) (id : RequestId) :
    c.registry.isExpected id = d.registry.isExpected id := by
  rw [Registry.isExpected, h.pending, Registry.isExpected]

theorem dispatch (h : SameRequests c d) (m : Inbound) :
    SameRequests (c.dispatch m) (d.dispatch m) := by
  obtain ⟨hbound, hlast, hwritten, hregistry, -⟩ := c.dispatch_eq m
  obtain ⟨hbound', hlast', hwritten', hregistry', -⟩ := d.dispatch_eq m
  have hreply : c.registry.reply? m = d.registry.reply? m := by
    simp only [Registry.reply?, h.pending]
  constructor
  · rw [hbound, hbound', h.requestBound]
  · rw [hregistry, hregistry', Registry.pending_dispatch, Registry.pending_dispatch, h.pending]
  · rw [hregistry, hregistry', Registry.closed_dispatch, Registry.closed_dispatch, h.closed]
  · rw [hlast, hlast', h.lastRequest]
  · cases hr : d.registry.reply? m with
    | none =>
      rw [Connection.calls_dispatch_of_none hr, Connection.calls_dispatch_of_none (hreply.trans hr),
        h.calls]
    | some answered =>
      rw [Connection.calls_dispatch_of_some hr, Connection.calls_dispatch_of_some (hreply.trans hr),
        h.calls]
  · rw [hwritten, hwritten', h.written]

/-- What an operation does to the requests does not depend on who listens. -/
theorem apply (h : SameRequests c d) (operation : Connection.Operation) :
    SameRequests (c.apply operation) (d.apply operation) := by
  obtain ⟨bound, ⟨pending, subscriptions, lastSubscription, closed⟩, last, calls, written, held,
    sightings⟩ := c
  obtain ⟨bound', ⟨pending', subscriptions', lastSubscription', closed'⟩, last', calls', written',
    held', sightings'⟩ := d
  have hsame := h
  obtain ⟨rfl, rfl, rfl, rfl, rfl, rfl⟩ := h
  cases operation with
  | issue method params => exact ⟨rfl, rfl, rfl, rfl, rfl, rfl⟩
  | enroll id =>
    simp only [Connection.apply, Connection.enroll, Connection.call?]
    split
    · split <;> exact ⟨rfl, rfl, rfl, rfl, rfl, rfl⟩
    · exact ⟨rfl, rfl, rfl, rfl, rfl, rfl⟩
  | write id =>
    simp only [Connection.apply, Connection.write, Connection.call?]
    split
    · split <;> exact ⟨rfl, rfl, rfl, rfl, rfl, rfl⟩
    · exact ⟨rfl, rfl, rfl, rfl, rfl, rfl⟩
  | refuse id =>
    simp only [Connection.apply, Connection.refuse, Connection.call?]
    split
    · split <;> exact ⟨rfl, rfl, rfl, rfl, rfl, rfl⟩
    · exact ⟨rfl, rfl, rfl, rfl, rfl, rfl⟩
  | readAnswer id => exact ⟨rfl, rfl, rfl, rfl, rfl, rfl⟩
  | expire id =>
    simp only [Connection.apply, Connection.expire, Connection.call?]
    split <;> exact ⟨rfl, rfl, rfl, rfl, rfl, rfl⟩
  | abandon id => exact ⟨rfl, rfl, rfl, rfl, rfl, rfl⟩
  | subscribe accepts =>
    exact ((sameRequests_subscribe _ accepts).symm.trans hsame).trans
      (sameRequests_subscribe _ accepts)
  | observe method => exact ⟨rfl, rfl, rfl, rfl, rfl, rfl⟩
  | observeMalformed => exact ⟨rfl, rfl, rfl, rfl, rfl, rfl⟩
  | off id => exact ⟨rfl, rfl, rfl, rfl, rfl, rfl⟩
  | take id => exact ((sameRequests_take _ id).symm.trans hsame).trans (sameRequests_take _ id)
  | hangUp =>
    simp only [Connection.apply, Connection.hangUp, Registry.close]
    split <;> exact ⟨rfl, rfl, rfl, rfl, rfl, rfl⟩
  | receive text =>
    simp only [Connection.apply, Connection.receive]
    split
    · exact hsame.dispatch _
    · exact ⟨rfl, rfl, rfl, rfl, rfl, rfl⟩

theorem run (h : SameRequests c d) (operations : List Connection.Operation) :
    SameRequests (c.run operations) (d.run operations) := by
  induction operations generalizing c d with
  | nil => exact h
  | cons operation rest ih => exact ih (h.apply operation)

end SameRequests

/-! ### An answer is left -/

theorem id_reply (outcome : Except TransportError Value) (call : Call) :
    (call.reply outcome).id = call.id := by
  rw [Call.reply]
  split <;> rfl

theorem method_reply (outcome : Except TransportError Value) (call : Call) :
    (call.reply outcome).method = call.method := by
  rw [Call.reply]
  split <;> rfl

theorem progress_reply (outcome : Except TransportError Value) (call : Call) :
    (call.reply outcome).progress = call.progress := by
  rw [Call.reply]
  split <;> rfl

theorem reply_of_unanswered {outcome : Except TransportError Value} {call : Call}
    (h : call.answer = none) : call.reply outcome = { call with answer := some outcome } := by
  simp [Call.reply, h]

end ValueTrace.Inspector
