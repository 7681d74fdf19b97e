import Mathlib.Tactic.SplitIfs
import ValueTrace.Proofs.Inspector.Sending
import ValueTrace.Proofs.Inspector.Waiting

/-!
# Another answer

An answer that has come is not looked at by anybody but its caller.  So a connection on which one
request has got another answer goes on in the same way under every operation: it stays the same
connection but for this answer (`OtherAnswer.run`), and the caller reads the other answer exactly
when it would have read the first (`OtherAnswer.outcome?_cases`).

## Main definitions

* `Call.HasAnswer` : the answer to a request has come.
* `Connection.withAnswer` : the connection with another answer to a request.
* `OtherAnswer` : two connections that are the same but for one answer.

## Main results

* `OtherAnswer.apply` : an operation on both connections.
* `exists_otherAnswer_dispatch` : two responses to the same request.
-/

namespace ValueTrace.Inspector

open Json (Value)

/-- The answer to a request has come, and its caller has read it, or may still read it, or has
walked away. -/
structure Call.HasAnswer (call : Call) (outcome : Except TransportError Value) : Prop where
  answer : call.answer = some outcome
  progress : call.progress = .written ∨ call.progress = .finished outcome ∨
    call.progress = .abandoned

/-- The request with another answer, which its caller has read if it has read the first. -/
def Call.withAnswer (outcome : Except TransportError Value) (call : Call) : Call :=
  { call with
    answer := some outcome
    progress := match call.progress with
      | .finished _ => .finished outcome
      | progress => progress }

/-- The connection with another answer to one request. -/
def Connection.withAnswer (c : Connection) (id : RequestId)
    (outcome : Except TransportError Value) : Connection :=
  c.updateCall id (Call.withAnswer outcome)

/-- The request with a number, if it is one of this connection, has its answer. -/
structure Connection.HasAnswer (c : Connection) (id : RequestId)
    (outcome : Except TransportError Value) : Prop where
  issued : id ≤ c.lastRequest
  answered : ∀ call ∈ c.calls, call.id = id → call.HasAnswer outcome

/-- The second connection is the first one with another answer to one request, which has an answer
on both. -/
structure OtherAnswer (id : RequestId) (outcome outcome' : Except TransportError Value)
    (c d : Connection) : Prop where
  first : c.HasAnswer id outcome
  same : d = c.withAnswer id outcome'

/-! ### Single requests -/

namespace Call.HasAnswer

variable {call : Call} {outcome outcome' : Except TransportError Value}

/-- The first answer stays. -/
theorem reply_eq (h : call.HasAnswer outcome) (other : Except TransportError Value) :
    call.reply other = call := by
  simp only [Call.reply, h.answer]

theorem withAnswer (h : call.HasAnswer outcome) (outcome' : Except TransportError Value) :
    (call.withAnswer outcome').HasAnswer outcome' := by
  refine ⟨rfl, ?_⟩
  rcases h.progress with hp | hp | hp <;> simp [Call.withAnswer, hp]

theorem readAnswer (h : call.HasAnswer outcome) : call.readAnswer.HasAnswer outcome := by
  rcases Accounts.readAnswer_cases call with heq | ⟨answer, -, hanswer, heq⟩
  · rw [heq]
    exact h
  · obtain rfl := Option.some.inj (h.answer.symm.trans hanswer)
    rw [heq]
    exact ⟨h.answer, Or.inr (Or.inl rfl)⟩

/-- A caller that would read the first answer reads the other one. -/
theorem readAnswer_withAnswer (h : call.HasAnswer outcome) :
    (call.withAnswer outcome').readAnswer = call.readAnswer.withAnswer outcome' := by
  rcases h.progress with hp | hp | hp <;> simp [Call.readAnswer, Call.withAnswer, hp, h.answer]

end Call.HasAnswer

/-! ### Changes of single requests -/

namespace Connection

variable {c : Connection} {id other : RequestId} {f g : Call → Call}

/-- Changes of two different requests do not depend on their order. -/
theorem updateCall_comm (hne : other ≠ id) (hf : ∀ call, (f call).id = call.id)
    (hg : ∀ call, (g call).id = call.id) :
    (c.updateCall id f).updateCall other g = (c.updateCall other g).updateCall id f := by
  have hsame : ((fun call => if call.id = other then g call else call) ∘ fun call =>
      if call.id = id then f call else call) =
      (fun call => if call.id = id then f call else call) ∘ fun call =>
        if call.id = other then g call else call := by
    funext call
    simp only [Function.comp_apply]
    by_cases hid : call.id = id
    · have hother : call.id ≠ other := fun heq => hne (heq.symm.trans hid)
      rw [if_pos hid, if_neg hother, hf, if_neg hother, if_pos hid]
    · rw [if_neg hid]
      by_cases hother : call.id = other
      · rw [if_pos hother, hg, if_neg hid]
      · rw [if_neg hother, if_neg hid]
  simp only [updateCall, List.map_map, hsame]

/-- A change that leaves the request alone changes nothing. -/
theorem updateCall_eq_self (h : ∀ call ∈ c.calls, call.id = id → f call = call) :
    c.updateCall id f = c := by
  have hcalls : (c.calls.map fun call => if call.id = id then f call else call) = c.calls := by
    refine (List.map_congr_left fun call hcall => ?_).trans (List.map_id _)
    split_ifs with hid
    · exact h call hcall hid
    · rfl
  rw [updateCall, hcalls]

/-- Two changes of one request do not depend on their order, if they do not for what it is. -/
theorem updateCall_comm_self (hf : ∀ call, (f call).id = call.id)
    (hg : ∀ call, (g call).id = call.id)
    (h : ∀ call ∈ c.calls, call.id = id → g (f call) = f (g call)) :
    (c.updateCall id f).updateCall id g = (c.updateCall id g).updateCall id f := by
  simp only [updateCall, List.map_map]
  congr 1
  refine List.map_congr_left fun call hcall => ?_
  simp only [Function.comp_apply]
  by_cases hid : call.id = id
  · rw [if_pos hid, if_pos ((hf call).trans hid), if_pos hid, if_pos ((hg call).trans hid),
      h call hcall hid]
  · rw [if_neg hid, if_neg hid, if_neg hid]

end Connection

/-! ### The request that has its answer -/

namespace Connection.HasAnswer

variable {c : Connection} {id : RequestId} {outcome : Except TransportError Value}

theorem of_call? (h : c.HasAnswer id outcome) {call : Call} (hcall : c.call? id = some call) :
    call.HasAnswer outcome :=
  h.answered call (List.mem_of_find?_eq_some hcall) (by simpa using List.find?_some hcall)

/-- A change of another request. -/
theorem update (h : c.HasAnswer id outcome) {other : RequestId} (hne : other ≠ id)
    {f : Call → Call} (hf : ∀ call, (f call).id = call.id) :
    (c.updateCall other f).HasAnswer id outcome := by
  refine ⟨h.issued, fun call hcall hid => ?_⟩
  obtain ⟨old, hold, rfl⟩ := List.mem_map.1 hcall
  by_cases hother : old.id = other
  · rw [if_pos hother] at hid
    exact absurd (hother.symm.trans ((hf old).symm.trans hid)) hne
  · rw [if_neg hother] at hid ⊢
    exact h.answered old hold hid

/-- A change of the request itself. -/
theorem update_self (h : c.HasAnswer id outcome) {f : Call → Call}
    {outcome' : Except TransportError Value}
    (hf : ∀ call : Call, call.HasAnswer outcome → (f call).HasAnswer outcome') :
    (c.updateCall id f).HasAnswer id outcome' := by
  refine ⟨h.issued, fun call hcall hid => ?_⟩
  obtain ⟨old, hold, rfl⟩ := List.mem_map.1 hcall
  by_cases hother : old.id = id
  · rw [if_pos hother]
    exact hf old (h.answered old hold hother)
  · rw [if_neg hother] at hid
    exact absurd hid hother

/-- A request with an answer is neither registered again nor written again, and not refused. -/
theorem enroll_eq (h : c.HasAnswer id outcome) : c.enroll id = c := by
  rw [enroll]
  split
  · rename_i hcall
    rcases (h.of_call? hcall).progress with hp | hp | hp <;> cases hp
  · rfl

theorem write_eq (h : c.HasAnswer id outcome) : c.write id = c := by
  rw [write]
  split
  · rename_i hcall
    rcases (h.of_call? hcall).progress with hp | hp | hp <;> rw [hp]
  · rfl

theorem refuse_eq (h : c.HasAnswer id outcome) : c.refuse id = c := by
  rw [refuse]
  split
  · rename_i hcall
    rcases (h.of_call? hcall).progress with hp | hp | hp <;> rw [hp]
  · rfl

/-- A request with an answer does not run out of time. -/
theorem expire_eq (h : c.HasAnswer id outcome) :
    c.expire id = if c.requestBound.isSome then c.readAnswer id else c := by
  rw [expire]
  split
  · rename_i hcall
    exact absurd (h.of_call? hcall).answer (by simp)
  · rename_i hbound _
    rw [hbound]
    rfl
  · rename_i hbound
    rw [hbound]
    rfl

end Connection.HasAnswer

namespace OtherAnswer

variable {id : RequestId} {outcome outcome' : Except TransportError Value} {c d : Connection}

theorem id_withAnswer (call : Call) : (call.withAnswer outcome).id = call.id := rfl

theorem second (h : OtherAnswer id outcome outcome' c d) : d.HasAnswer id outcome' := by
  rw [h.same]
  exact h.first.update_self fun call hcall => hcall.withAnswer outcome'

theorem call?_of_ne (h : OtherAnswer id outcome outcome' c d) {other : RequestId}
    (hne : other ≠ id) : d.call? other = c.call? other := by
  rw [h.same, Connection.withAnswer, c.call?_updateCall id other id_withAnswer, if_neg hne]

theorem call?_self (h : OtherAnswer id outcome outcome' c d) :
    d.call? id = (c.call? id).map (Call.withAnswer outcome') := by
  rw [h.same, Connection.withAnswer, c.call?_updateCall id id id_withAnswer, if_pos rfl]

/-- Nothing but the requests differs. -/
theorem eq_calls (h : OtherAnswer id outcome outcome' c d) : d = { c with calls := d.calls } := by
  rw [h.same]
  rfl

theorem registry (h : OtherAnswer id outcome outcome' c d) : d.registry = c.registry := by
  rw [h.eq_calls]

theorem sameListeners (h : OtherAnswer id outcome outcome' c d) : SameListeners c d := by
  rw [h.same]
  exact ⟨rfl, rfl, rfl, rfl⟩

/-- A change of another request. -/
theorem update (h : OtherAnswer id outcome outcome' c d) {other : RequestId} (hne : other ≠ id)
    {f : Call → Call} (hf : ∀ call, (f call).id = call.id) :
    OtherAnswer id outcome outcome' (c.updateCall other f) (d.updateCall other f) := by
  refine ⟨h.first.update hne hf, ?_⟩
  rw [h.same]
  exact Connection.updateCall_comm hne id_withAnswer hf

/-- A change of the request itself that treats all answers alike. -/
theorem update_self (h : OtherAnswer id outcome outcome' c d) {f : Call → Call}
    (hid : ∀ call, (f call).id = call.id)
    (hkeeps : ∀ call : Call, call.HasAnswer outcome → (f call).HasAnswer outcome)
    (hcomm : ∀ call : Call, call.HasAnswer outcome →
      f (call.withAnswer outcome') = (f call).withAnswer outcome') :
    OtherAnswer id outcome outcome' (c.updateCall id f) (d.updateCall id f) := by
  refine ⟨h.first.update_self hkeeps, ?_⟩
  rw [h.same]
  exact Connection.updateCall_comm_self id_withAnswer hid fun call hcall heq =>
    hcomm call (h.first.answered call hcall heq)

/-- A change of anything but the requests. -/
theorem of_calls (h : OtherAnswer id outcome outcome' c d) {c' d' : Connection}
    (hcalls : c'.calls = c.calls) (hlast : c'.lastRequest = c.lastRequest)
    (hd : d' = { c' with calls := d.calls }) : OtherAnswer id outcome outcome' c' d' := by
  refine ⟨⟨hlast ▸ h.first.issued, fun call hcall => h.first.answered call (hcalls ▸ hcall)⟩, ?_⟩
  rw [hd, h.same, Connection.withAnswer, Connection.withAnswer, Connection.updateCall,
    Connection.updateCall, hcalls]

/-! ### Operations -/

theorem issue (h : OtherAnswer id outcome outcome' c d) (method : String)
    (params : Option Value) :
    OtherAnswer id outcome outcome' (c.issue method params).1 (d.issue method params).1 := by
  have hnew : c.lastRequest + 1 ≠ id := Nat.ne_of_gt (Nat.lt_succ_of_le h.first.issued)
  refine ⟨⟨Nat.le_succ_of_le h.first.issued, fun call hcall hid => ?_⟩, ?_⟩
  · rcases List.mem_append.1 hcall with hold | hlast
    · exact h.first.answered call hold hid
    · rw [List.mem_singleton.1 hlast] at hid
      exact absurd hid hnew
  · rw [h.same]
    simp [Connection.issue, Connection.withAnswer, Connection.updateCall, hnew]

theorem enroll (h : OtherAnswer id outcome outcome' c d) (other : RequestId) :
    OtherAnswer id outcome outcome' (c.enroll other) (d.enroll other) := by
  by_cases hne : other = id
  · rw [hne, h.first.enroll_eq, h.second.enroll_eq]
    exact h
  · have hcall := h.call?_of_ne hne
    rw [Connection.enroll, Connection.enroll, hcall, h.registry]
    split
    · split
      · exact h.update hne fun _ => rfl
      · refine update ?_ hne fun _ => rfl
        exact h.of_calls rfl rfl (by rw [h.eq_calls])
    · exact h

theorem write (h : OtherAnswer id outcome outcome' c d) (other : RequestId) :
    OtherAnswer id outcome outcome' (c.write other) (d.write other) := by
  by_cases hne : other = id
  · rw [hne, h.first.write_eq, h.second.write_eq]
    exact h
  · have hcall := h.call?_of_ne hne
    have hwritten : d.written = c.written := by rw [h.eq_calls]
    rw [Connection.write, Connection.write, hcall, hwritten]
    split
    · split
      · refine update ?_ hne fun _ => rfl
        exact h.of_calls rfl rfl (by rw [h.eq_calls])
      · exact h
    · exact h

theorem refuse (h : OtherAnswer id outcome outcome' c d) (other : RequestId) :
    OtherAnswer id outcome outcome' (c.refuse other) (d.refuse other) := by
  by_cases hne : other = id
  · rw [hne, h.first.refuse_eq, h.second.refuse_eq]
    exact h
  · have hcall := h.call?_of_ne hne
    rw [Connection.refuse, Connection.refuse, hcall, h.registry]
    split
    · split
      · refine update ?_ hne fun _ => rfl
        exact h.of_calls rfl rfl (by rw [h.eq_calls])
      · exact h
    · exact h

theorem id_readAnswer (call : Call) : call.readAnswer.id = call.id := by
  rcases Accounts.readAnswer_cases call with heq | ⟨answer, -, -, heq⟩ <;> rw [heq]

theorem readAnswer (h : OtherAnswer id outcome outcome' c d) (other : RequestId) :
    OtherAnswer id outcome outcome' (c.readAnswer other) (d.readAnswer other) := by
  by_cases hne : other = id
  · rw [hne]
    exact h.update_self id_readAnswer (fun _ hcall => hcall.readAnswer)
      fun _ hcall => hcall.readAnswer_withAnswer
  · exact h.update hne id_readAnswer

theorem expire (h : OtherAnswer id outcome outcome' c d) (other : RequestId) :
    OtherAnswer id outcome outcome' (c.expire other) (d.expire other) := by
  have hbound : d.requestBound = c.requestBound := by rw [h.eq_calls]
  by_cases hne : other = id
  · rw [hne, h.first.expire_eq, h.second.expire_eq, hbound]
    split
    · exact h.readAnswer id
    · exact h
  · have hcall := h.call?_of_ne hne
    rw [Connection.expire, Connection.expire, hcall, hbound, h.registry]
    split
    · refine update ?_ hne fun _ => rfl
      exact h.of_calls rfl rfl (by rw [h.eq_calls])
    · exact h.readAnswer other
    · exact h

/-- The caller of a request walks away. -/
theorem abandon (h : OtherAnswer id outcome outcome' c d) (other : RequestId) :
    OtherAnswer id outcome outcome' (c.abandon other) (d.abandon other) := by
  by_cases hne : other = id
  · rw [hne]
    refine h.update_self (fun call => ?_) (fun call hcall => ?_) fun call hcall => ?_
    · split <;> rfl
    · rcases hcall.progress with hp | hp | hp <;> rw [hp]
      · exact ⟨hcall.answer, Or.inr (Or.inr rfl)⟩
      · exact hcall
      · exact hcall
    · rcases hcall.progress with hp | hp | hp <;> simp [Call.withAnswer, hp]
  · refine h.update hne fun call => ?_
    split <;> rfl

theorem take (h : OtherAnswer id outcome outcome' c d) (waiter : SubscriptionId) :
    OtherAnswer id outcome outcome' (c.take waiter).1 (d.take waiter).1 := by
  have hheld : d.held = c.held := by rw [h.eq_calls]
  rw [Connection.take, Connection.take, hheld]
  split
  · exact h.of_calls rfl rfl (by rw [h.eq_calls])
  · exact h

/-- The answer that a frame brings is left for another request, or comes too late. -/
theorem deliverReply (h : OtherAnswer id outcome outcome' c d)
    (reply : Option (RequestId × Except TransportError Value)) :
    OtherAnswer id outcome outcome' (c.deliverReply reply) (d.deliverReply reply) := by
  cases reply with
  | none => exact h
  | some answered =>
    obtain ⟨other, found⟩ := answered
    by_cases hne : other = id
    · obtain rfl := hne
      have hfirst : c.updateCall other (Call.reply found) = c :=
        Connection.updateCall_eq_self fun call hcall hid =>
          (h.first.answered call hcall hid).reply_eq found
      have hsecond : d.updateCall other (Call.reply found) = d :=
        Connection.updateCall_eq_self fun call hcall hid =>
          (h.second.answered call hcall hid).reply_eq found
      rw [Connection.deliverReply, Connection.deliverReply, hfirst, hsecond]
      exact h
    · exact h.update hne (id_reply found)

theorem dispatch (h : OtherAnswer id outcome outcome' c d) (m : Inbound) :
    OtherAnswer id outcome outcome' (c.dispatch m) (d.dispatch m) := by
  rw [Connection.dispatch, Connection.dispatch, h.registry]
  refine deliverReply ?_ _
  exact h.of_calls rfl rfl (by rw [h.eq_calls])

theorem receive (h : OtherAnswer id outcome outcome' c d) (text : String) :
    OtherAnswer id outcome outcome' (c.receive text) (d.receive text) := by
  rw [Connection.receive, Connection.receive]
  split
  · exact h.dispatch _
  · exact h.of_calls rfl rfl (by rw [h.eq_calls])

/-- The end of the connection comes too late for a request that has its answer. -/
theorem hangUp (h : OtherAnswer id outcome outcome' c d) :
    OtherAnswer id outcome outcome' c.hangUp d.hangUp := by
  refine ⟨⟨h.first.issued, fun call hcall hid => ?_⟩, ?_⟩
  · obtain ⟨old, hold, rfl⟩ := List.mem_map.1 hcall
    have hid' : old.id = id := by
      split at hid
      · exact (id_reply _ old).symm.trans hid
      · exact hid
    have hanswer := h.first.answered old hold hid'
    rw [hanswer.reply_eq, ite_self]
    exact hanswer
  · have hcalls (failed : List RequestId) :
        ((c.withAnswer id outcome').calls.map fun call =>
          if failed.contains call.id then call.reply (.error .closed) else call) =
        (c.calls.map fun call =>
          if failed.contains call.id then call.reply (.error .closed) else call).map fun call =>
            if call.id = id then call.withAnswer outcome' else call := by
      simp only [Connection.withAnswer, Connection.updateCall, List.map_map]
      refine List.map_congr_left fun call hcall => ?_
      simp only [Function.comp_apply]
      by_cases hid : call.id = id
      · have hanswer := h.first.answered call hcall hid
        rw [if_pos hid, hanswer.reply_eq, ite_self, if_pos hid,
          (hanswer.withAnswer outcome').reply_eq, ite_self]
      · have hid' (other : Except TransportError Value) : ¬ (call.reply other).id = id :=
          fun heq => hid ((id_reply other call).symm.trans heq)
        rw [if_neg hid]
        by_cases hfailed : failed.contains call.id = true
        · rw [if_pos hfailed, if_neg (hid' _)]
        · rw [if_neg hfailed, if_neg hid]
    rw [h.same]
    exact congrArg (fun calls => ({ c.hangUp with calls } : Connection)) (hcalls _)

/-- Every operation leaves the two connections the same but for the answer. -/
theorem apply (h : OtherAnswer id outcome outcome' c d) (operation : Connection.Operation) :
    OtherAnswer id outcome outcome' (c.apply operation) (d.apply operation) := by
  cases operation with
  | issue method params => exact h.issue method params
  | enroll other => exact h.enroll other
  | write other => exact h.write other
  | refuse other => exact h.refuse other
  | readAnswer other => exact h.readAnswer other
  | expire other => exact h.expire other
  | abandon other => exact h.abandon other
  | subscribe accepts =>
    simp only [Connection.apply, Connection.subscribe, h.registry]
    exact h.of_calls rfl rfl (by rw [h.eq_calls])
  | observe method =>
    simp only [Connection.apply, Connection.observe, h.registry]
    exact h.of_calls rfl rfl (by rw [h.eq_calls])
  | observeMalformed =>
    simp only [Connection.apply, Connection.observeMalformed, h.registry]
    exact h.of_calls rfl rfl (by rw [h.eq_calls])
  | off waiter =>
    simp only [Connection.apply, Connection.off, h.registry]
    exact h.of_calls rfl rfl (by rw [h.eq_calls])
  | take waiter => exact h.take waiter
  | receive text => exact h.receive text
  | hangUp => exact h.hangUp

theorem run (h : OtherAnswer id outcome outcome' c d) (operations : List Connection.Operation) :
    OtherAnswer id outcome outcome' (c.run operations) (d.run operations) := by
  induction operations generalizing c d with
  | nil => exact h
  | cons operation rest ih => exact ih (h.apply operation)

/-! ### Outcomes -/

/-- The outcome of any other request is the same. -/
theorem outcome?_of_ne (h : OtherAnswer id outcome outcome' c d) {other : RequestId}
    (hne : other ≠ id) : d.outcome? other = c.outcome? other := by
  rw [Connection.outcome?, Connection.outcome?, h.call?_of_ne hne]

/-- The request itself has no outcome on both connections, or on each of them the answer there. -/
theorem outcome?_cases (h : OtherAnswer id outcome outcome' c d) :
    (c.outcome? id = none ∧ d.outcome? id = none) ∨
      (c.outcome? id = some outcome ∧ d.outcome? id = some outcome') := by
  rw [Connection.outcome?, Connection.outcome?, h.call?_self]
  cases hcall : c.call? id with
  | none => exact Or.inl ⟨rfl, rfl⟩
  | some call =>
    rcases (h.first.of_call? hcall).progress with hp | hp | hp <;>
      simp [Call.outcome?, Call.withAnswer, hp]

/-- The requests that are made are the same. -/
theorem requests (h : OtherAnswer id outcome outcome' c d) : d.requests = c.requests := by
  rw [h.same]
  exact Connection.requests_updateCall id fun _ => rfl

end OtherAnswer

/-! ### Two responses -/

/-- The answer to an expected request is what its caller gets from the response. -/
theorem Accounts.reply?_of_expected {c : Connection} {reply : RequestId → Option Response}
    (ha : Accounts c reply) {call : Call} (hcall : call ∈ c.calls)
    (hexpected : c.registry.isExpected call.id = true) {r : Response} (hr : r.id = call.id) :
    c.registry.reply? (.response r) = some (call.id, r.outcomeFor call.method) := by
  cases hreply : c.registry.reply? (.response r) with
  | none =>
    have hno := (Registry.reply?_eq_none_iff _ _).1 hreply call.id (congrArg some hr)
    exact absurd hexpected (Bool.eq_false_iff.1 hno)
  | some answered =>
    obtain ⟨id, outcome⟩ := answered
    obtain ⟨r', hr', hid, p, hp, hpid, rfl⟩ := Registry.exists_of_reply?_eq_some _ _ hreply
    obtain rfl := Inbound.response.inj hr'
    obtain ⟨asked, hasked, haid, hamethod⟩ := ha.pending p hp
    have hsame : asked.id = call.id := haid.trans (hpid.trans (hid.symm.trans hr))
    obtain rfl := ha.eq_of_id_eq hasked hcall hsame
    rw [← hamethod, ← hid, hr]
    rfl

/-- When two responses answer the same request, the connections afterwards have the same requests
but for this answer. -/
theorem exists_otherAnswer_dispatch {c : Connection} {reply : RequestId → Option Response}
    (ha : Accounts c reply) {call : Call} (hcall : call ∈ c.calls)
    (hwritten : call.progress = .written) (hexpected : c.registry.isExpected call.id = true)
    {r r' : Response} (hr : r.id = call.id) (hr' : r'.id = call.id) :
    ∃ d, OtherAnswer call.id (r.outcomeFor call.method) (r'.outcomeFor call.method)
        (c.dispatch (.response r)) d ∧ SameRequests d (c.dispatch (.response r')) := by
  have hunanswered : call.answer = none := ((ha.standing call hcall).of_expected hexpected).2.1
  have hcalls {answer : Response} (hid : answer.id = call.id) :
      (c.dispatch (.response answer)).calls = c.calls.map fun other =>
        if other.id = call.id then
          { call with answer := some (answer.outcomeFor call.method) } else other := by
    rw [Connection.calls_dispatch_of_some (ha.reply?_of_expected hcall hexpected hid)]
    refine List.map_congr_left fun other hother => ?_
    split_ifs with hsame
    · obtain rfl := ha.eq_of_id_eq hother hcall hsame
      exact reply_of_unanswered hunanswered
    · rfl
  obtain ⟨hbound, hlast, hwrote, hregistry, -⟩ := c.dispatch_eq (.response r)
  obtain ⟨hbound', hlast', hwrote', hregistry', -⟩ := c.dispatch_eq (.response r')
  refine ⟨_, ⟨⟨?_, fun other hother hid => ?_⟩, rfl⟩, ?_⟩
  · rw [hlast]
    exact (ha.exists_call_iff.1 ⟨call, hcall, rfl⟩).2
  · rw [hcalls hr] at hother
    obtain ⟨old, -, rfl⟩ := List.mem_map.1 hother
    by_cases hsame : old.id = call.id
    · rw [if_pos hsame]
      exact ⟨rfl, Or.inl hwritten⟩
    · rw [if_neg hsame] at hid
      exact absurd hid hsame
  · refine ⟨hbound.trans hbound'.symm, ?_, ?_, hlast.trans hlast'.symm, ?_,
      hwrote.trans hwrote'.symm⟩
    · change (c.dispatch (.response r)).registry.pending = _
      rw [hregistry, hregistry', Registry.pending_dispatch, Registry.pending_dispatch,
        Inbound.id?, Inbound.id?, hr, hr']
    · change (c.dispatch (.response r)).registry.closed = _
      rw [hregistry, hregistry', Registry.closed_dispatch, Registry.closed_dispatch]
    · rw [Connection.withAnswer, Connection.updateCall, hcalls hr, hcalls hr', List.map_map]
      refine List.map_congr_left fun other _ => ?_
      by_cases hid : other.id = call.id
      · simp [hid, Call.withAnswer, hwritten]
      · simp [hid]

end ValueTrace.Inspector
