import ValueTrace.Proofs.Inspector.Correlation

/-!
# The log of the requests

The requests of a connection form a log that only grows: what becomes of a request changes its
progress and its answer, never what was asked.  A request that is made at once is at the end of the
log, written on an open connection and lost on a closed one (`Accounts.send_open`,
`Accounts.send_closed`).  No request is pending twice (`Connection.nodup_pending_run`).

## Main definitions

* `Connection.requests` : the requests made on a connection, in order.
* `Connection.Operation.asks` : whether an operation takes part in making a request.
-/

namespace ValueTrace.Inspector

open Json (Value)

/-- Whether an operation takes part in making a request. -/
def Connection.Operation.asks : Connection.Operation → Bool
  | .issue .. | .enroll _ | .write _ | .refuse _ => true
  | _ => false

namespace Connection

variable {c : Connection}

/-- The requests made on a connection, in order. -/
def requests (c : Connection) : List Request := c.calls.map Call.request

theorem requests_updateCall (id : RequestId) {f : Call → Call}
    (hf : ∀ call, (f call).request = call.request) : (c.updateCall id f).requests = c.requests := by
  simp only [requests, updateCall, List.map_map]
  refine List.map_congr_left fun call _ => ?_
  rw [Function.comp_apply]
  split_ifs
  · exact hf call
  · rfl

theorem requests_dispatch (c : Connection) (m : Inbound) :
    (c.dispatch m).requests = c.requests := by
  cases hr : c.registry.reply? m with
  | none => rw [requests, calls_dispatch_of_none hr, requests]
  | some answered =>
    rw [requests, calls_dispatch_of_some hr]
    exact requests_updateCall answered.1 fun call => (call.continues_reply answered.2).1

theorem requests_hangUp (c : Connection) : c.hangUp.requests = c.requests := by
  simp only [requests, hangUp, List.map_map]
  refine List.map_congr_left fun call _ => ?_
  rw [Function.comp_apply]
  split_ifs
  · exact (call.continues_reply _).1
  · rfl

/-- What takes no part in making requests leaves the log and the texts alone. -/
theorem requests_apply (c : Connection) (operation : Operation) (h : operation.asks = false) :
    (c.apply operation).requests = c.requests ∧ (c.apply operation).written = c.written := by
  cases operation with
  | issue method params => exact Bool.noConfusion h
  | enroll id => exact Bool.noConfusion h
  | write id => exact Bool.noConfusion h
  | refuse id => exact Bool.noConfusion h
  | readAnswer id => exact ⟨requests_updateCall id fun call => call.continues_readAnswer.1, rfl⟩
  | expire id =>
    simp only [apply, expire]
    split
    · exact ⟨requests_updateCall _ fun _ => rfl, rfl⟩
    · exact ⟨requests_updateCall id fun call => call.continues_readAnswer.1, rfl⟩
    · exact ⟨rfl, rfl⟩
  | abandon id =>
    refine ⟨requests_updateCall id fun call => ?_, rfl⟩
    split <;> rfl
  | subscribe accepts =>
    have hsame := sameRequests_subscribe c accepts
    exact ⟨congrArg (List.map Call.request) hsame.calls.symm, hsame.written.symm⟩
  | take id =>
    have hsame := sameRequests_take c id
    exact ⟨congrArg (List.map Call.request) hsame.calls.symm, hsame.written.symm⟩
  | receive text =>
    simp only [apply, receive]
    split
    · exact ⟨c.requests_dispatch _, (c.dispatch_eq _).2.2.1⟩
    · exact ⟨rfl, rfl⟩
  | hangUp => exact ⟨c.requests_hangUp, rfl⟩
  | observe method => exact ⟨rfl, rfl⟩
  | observeMalformed => exact ⟨rfl, rfl⟩
  | off id => exact ⟨rfl, rfl⟩

theorem requests_run {operations : List Operation}
    (h : ∀ operation ∈ operations, operation.asks = false) :
    (c.run operations).requests = c.requests ∧ (c.run operations).written = c.written := by
  induction operations generalizing c with
  | nil => exact ⟨rfl, rfl⟩
  | cons operation rest ih =>
    obtain ⟨hrequests, hwritten⟩ := ih (c := c.apply operation)
      fun o ho => h o (List.mem_cons_of_mem _ ho)
    obtain ⟨hfirst, hfirstWritten⟩ :=
      c.requests_apply operation (h operation List.mem_cons_self)
    exact ⟨hrequests.trans hfirst, hwritten.trans hfirstWritten⟩

/-- A frame changes at most answers. -/
theorem exists_calls_receive (c : Connection) (text : String) :
    ∃ change : Call → Call, (c.receive text).calls = c.calls.map change ∧
      ∀ call, (change call).request = call.request ∧ (change call).progress = call.progress := by
  have hsame : ∃ change : Call → Call, c.calls = c.calls.map change ∧
      ∀ call, (change call).request = call.request ∧ (change call).progress = call.progress :=
    ⟨id, (List.map_id _).symm, fun _ => ⟨rfl, rfl⟩⟩
  rw [receive]
  split
  · rename_i m _
    cases hr : c.registry.reply? m with
    | none =>
      rw [calls_dispatch_of_none hr]
      exact hsame
    | some answered =>
      refine ⟨_, calls_dispatch_of_some hr, fun call => ?_⟩
      split_ifs
      · exact ⟨(call.continues_reply _).1, progress_reply _ call⟩
      · exact ⟨rfl, rfl⟩
  · exact hsame

/-- The end of the connection changes at most answers. -/
theorem exists_calls_hangUp (c : Connection) :
    ∃ change : Call → Call, c.hangUp.calls = c.calls.map change ∧
      ∀ call, (change call).request = call.request ∧ (change call).progress = call.progress := by
  refine ⟨_, rfl, fun call => ?_⟩
  split_ifs
  · exact ⟨(call.continues_reply _).1, progress_reply _ call⟩
  · exact ⟨rfl, rfl⟩

/-- The latest call is changed alone. -/
theorem calls_updateCall_concat {calls : List Call} {last : Call} {id : RequestId}
    (f : Call → Call) (hcalls : c.calls = calls ++ [last]) (hid : last.id = id)
    (hfresh : ∀ call ∈ calls, call.id ≠ id) :
    (c.updateCall id f).calls = calls ++ [f last] := by
  have hkept : calls.map (fun call => if call.id = id then f call else call) = calls :=
    (List.map_congr_left fun call hcall => if_neg (hfresh call hcall)).trans (List.map_id _)
  simp only [updateCall, hcalls, List.map_append, List.map_cons, List.map_nil, hkept, hid, if_true]

/-- The call of a request that is made at once. -/
def sentCall (c : Connection) (method : String) (params : Option Value) : Call :=
  ⟨c.lastRequest + 1, method, params,
    if c.isClosed then .finished (.error .closed) else .written, none⟩

end Connection

namespace Accounts

open Connection

variable {c : Connection} {reply : RequestId → Option Response}

/-- The next number has not been given to any request. -/
theorem id_ne_next (h : Accounts c reply) : ∀ call ∈ c.calls, call.id ≠ c.lastRequest + 1 := by
  intro call hcall heq
  exact absurd (h.exists_call_iff.1 ⟨call, hcall, heq⟩).2 (Nat.not_succ_le_self _)

/-- The call at the end of the list is found by its number. -/
theorem call?_last (h : Accounts c reply) {calls : List Call} {last : Call}
    (hcalls : c.calls = calls ++ [last]) : c.call? last.id = some last :=
  h.call?_eq_some_iff.2 ⟨hcalls ▸ List.mem_append_right _ (List.mem_singleton_self _), rfl⟩

/-- On a closed connection a new request fails when it should be registered. -/
theorem send_closed (h : Accounts c reply) (hclosed : c.isClosed = true) (method : String)
    (params : Option Value) :
    (c.send method params).1.calls = c.calls ++ [c.sentCall method params] ∧
      (c.send method params).1.written = c.written := by
  have hissued := h.issue method params
  have hnew : (c.issue method params).1.calls =
      c.calls ++ [⟨c.lastRequest + 1, method, params, .numbered, none⟩] := rfl
  have henroll : (c.issue method params).1.enroll (c.lastRequest + 1) =
      (c.issue method params).1.updateCall (c.lastRequest + 1) fun call =>
        { call with progress := .finished (.error .closed) } := by
    have hfound := hissued.call?_last hnew
    rw [Connection.enroll]
    rw [hfound]
    exact if_pos hclosed
  have hcalls : ((c.issue method params).1.enroll (c.lastRequest + 1)).calls =
      c.calls ++ [c.sentCall method params] := by
    rw [henroll, sentCall, if_pos hclosed]
    exact calls_updateCall_concat _ hnew rfl h.id_ne_next
  have hwrite : (c.send method params).1 =
      (c.issue method params).1.enroll (c.lastRequest + 1) := by
    have hfound := (hissued.enroll (c.lastRequest + 1)).call?_last hcalls
    rw [sentCall, if_pos hclosed] at hfound
    change ((c.issue method params).1.enroll (c.lastRequest + 1)).write (c.lastRequest + 1) = _
    rw [Connection.write]
    rw [hfound]
  rw [hwrite]
  refine ⟨hcalls, ?_⟩
  rw [henroll]
  rfl

/-- On an open connection a new request is registered and written. -/
theorem send_open (h : Accounts c reply) (hopen : c.isClosed = false) (method : String)
    (params : Option Value) :
    (c.send method params).1.calls = c.calls ++ [c.sentCall method params] ∧
      (c.send method params).1.written =
        c.written ++ [(c.sentCall method params).request] := by
  have hissued := h.issue method params
  have hnew : (c.issue method params).1.calls =
      c.calls ++ [⟨c.lastRequest + 1, method, params, .numbered, none⟩] := rfl
  have henroll : (c.issue method params).1.enroll (c.lastRequest + 1) =
      { (c.issue method params).1 with
        registry := c.registry.expect (c.lastRequest + 1) method }.updateCall
          (c.lastRequest + 1) fun call => { call with progress := .registered } := by
    have hfound := hissued.call?_last hnew
    rw [Connection.enroll]
    rw [hfound]
    exact if_neg (Bool.eq_false_iff.1 hopen)
  have hcalls : ((c.issue method params).1.enroll (c.lastRequest + 1)).calls =
      c.calls ++ [⟨c.lastRequest + 1, method, params, .registered, none⟩] := by
    rw [henroll]
    exact calls_updateCall_concat _ hnew rfl h.id_ne_next
  have hwrite : (c.send method params).1 =
      { (c.issue method params).1.enroll (c.lastRequest + 1) with
        written := ((c.issue method params).1.enroll (c.lastRequest + 1)).written ++
          [(c.sentCall method params).request] }.updateCall (c.lastRequest + 1)
            fun call => { call with progress := .written } := by
    have hfound := (hissued.enroll (c.lastRequest + 1)).call?_last hcalls
    change ((c.issue method params).1.enroll (c.lastRequest + 1)).write (c.lastRequest + 1) = _
    rw [Connection.write]
    rw [hfound]
    rfl
  rw [hwrite, sentCall, if_neg (Bool.eq_false_iff.1 hopen)]
  refine ⟨calls_updateCall_concat _ hcalls rfl h.id_ne_next, ?_⟩
  rw [henroll]
  rfl

/-- A request that is made at once is at the end of the log. -/
theorem calls_send (h : Accounts c reply) (method : String) (params : Option Value) :
    (c.send method params).1.calls = c.calls ++ [c.sentCall method params] := by
  cases hclosed : c.isClosed with
  | true => exact (h.send_closed hclosed method params).1
  | false => exact (h.send_open hclosed method params).1

end Accounts

/-! ### What is pending -/

namespace Connection

variable {c : Connection}

/-- An operation removes pending requests, or expects the answer to one. -/
theorem pending_apply_cases (c : Connection) (operation : Operation) :
    (c.apply operation).registry.pending.Sublist c.registry.pending ∨
      ∃ id method, operation = .enroll id ∧ (c.apply operation).registry.pending =
        c.registry.pending.filter (fun p => p.id ≠ id) ++ [⟨id, method⟩] := by
  have hsame : c.registry.pending.Sublist c.registry.pending := List.Sublist.refl _
  cases operation with
  | enroll id =>
    simp only [apply, enroll]
    split
    · rename_i id' method _ _ _
      split
      · exact Or.inl hsame
      · exact Or.inr ⟨id, method, rfl, rfl⟩
    · exact Or.inl hsame
  | write id =>
    simp only [apply, write]
    split
    · split <;> exact Or.inl hsame
    · exact Or.inl hsame
  | refuse id =>
    simp only [apply, refuse]
    split
    · split
      · exact Or.inl List.filter_sublist
      · exact Or.inl hsame
    · exact Or.inl hsame
  | expire id =>
    simp only [apply, expire]
    split
    · exact Or.inl List.filter_sublist
    · exact Or.inl hsame
    · exact Or.inl hsame
  | subscribe accepts =>
    have hpending := (sameRequests_subscribe c accepts).pending
    exact Or.inl (hpending ▸ hsame)
  | take id =>
    have hpending := (sameRequests_take c id).pending
    exact Or.inl (hpending ▸ hsame)
  | receive text =>
    simp only [apply, receive]
    split
    · rename_i m _
      rw [(c.dispatch_eq m).2.2.2.1, Registry.pending_dispatch]
      exact Or.inl List.filter_sublist
    · exact Or.inl hsame
  | hangUp =>
    simp only [apply, hangUp, Registry.close]
    split
    · exact Or.inl hsame
    · exact Or.inl (List.nil_sublist _)
  | _ => exact Or.inl hsame

/-- An answer is expected only if it was before, or the request is registered now. -/
theorem isExpected_of_apply (operation : Operation) {id : RequestId}
    (h : (c.apply operation).registry.isExpected id = true) :
    c.registry.isExpected id = true ∨ operation = .enroll id := by
  obtain ⟨p, hp, hpid⟩ := (Registry.isExpected_iff _ _).1 h
  rcases c.pending_apply_cases operation with hsub | ⟨other, method, rfl, heq⟩
  · exact Or.inl ((Registry.isExpected_iff _ _).2 ⟨p, hsub.subset hp, hpid⟩)
  · rw [heq] at hp
    rcases List.mem_append.1 hp with hold | hnew
    · exact Or.inl ((Registry.isExpected_iff _ _).2 ⟨p, (List.mem_filter.1 hold).1, hpid⟩)
    · rw [List.mem_singleton.1 hnew] at hpid
      exact Or.inr (congrArg Operation.enroll hpid)

theorem isExpected_of_run {operations : List Operation} {id : RequestId}
    (h : (c.run operations).registry.isExpected id = true) :
    c.registry.isExpected id = true ∨ .enroll id ∈ operations := by
  induction operations generalizing c with
  | nil => exact Or.inl h
  | cons operation rest ih =>
    rcases ih h with hexpected | hmem
    · exact (isExpected_of_apply operation hexpected).imp_right fun heq =>
        List.mem_cons.2 (Or.inl heq.symm)
    · exact Or.inr (List.mem_cons_of_mem _ hmem)

/-- No request is pending twice. -/
theorem nodup_pending_apply (h : (c.registry.pending.map PendingRequest.id).Nodup)
    (operation : Operation) :
    ((c.apply operation).registry.pending.map PendingRequest.id).Nodup := by
  rcases c.pending_apply_cases operation with hsub | ⟨id, method, -, heq⟩
  · exact h.sublist (hsub.map _)
  · rw [heq, List.map_append, List.map_singleton, List.nodup_append']
    refine ⟨h.sublist (List.filter_sublist.map _), List.nodup_singleton _, ?_⟩
    rw [List.disjoint_singleton, List.mem_map]
    rintro ⟨p, hp, hid⟩
    exact of_decide_eq_true (List.mem_filter.1 hp).2 hid

theorem nodup_pending_run (bound : Option Duration) (operations : List Operation) :
    (((opened bound).run operations).registry.pending.map PendingRequest.id).Nodup := by
  induction operations using List.reverseRecOn with
  | nil => exact List.nodup_nil
  | append_singleton operations operation ih =>
    rw [run_concat]
    exact nodup_pending_apply ih operation

end Connection

end ValueTrace.Inspector
