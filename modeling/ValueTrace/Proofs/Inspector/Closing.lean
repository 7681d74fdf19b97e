import ValueTrace.Proofs.Inspector.Listening
import ValueTrace.Proofs.Inspector.Sending

/-!
# After the end of a connection

A connection ends once, and whatever operations come after, in whatever order, work on a registry
without pending requests and without waiters.  What may still happen to a request is little: it
fails where it should be registered or written, or its caller reads the failure that the end has
left for it (`Call.AfterEnd`).  So a request without an answer is lost (`closing_is_final`), and one
that is made later is never registered or written.

## Main definitions

* `Call.AfterEnd` : how a call may go on after the end.
* `Call.IsLost` : the only outcome of a call is the end of the connection.
* `Connection.Unsent` : a request that is not written and cannot be.
* `Connection.proceed` : a caller goes on with its request.

## Main results

* `Accounts.calls_apply_of_closed` : what an operation does to the calls after the end.
* `Numbered.subscriptions_run_of_closed` : which subscriptions are left.
* `Accounts.exists_lost_run_hangUp` : what becomes of a request without an answer.
* `closing_is_final` : what the end of a connection means for everyone.
-/

namespace ValueTrace.Inspector

open Json (Value)

/-! ### Calls after the end -/

/-- How a call may go on after the end of its connection, within one operation. -/
inductive Call.AfterEnd (call : Call) : Call → Prop
  | stays : call.AfterEnd call
  | fails (h : call.progress = .numbered ∨ call.progress = .registered) :
      call.AfterEnd { call with progress := .finished (.error .closed) }
  | writes (h : call.progress = .registered) : call.AfterEnd { call with progress := .written }
  | reads (outcome : Except TransportError Value) (h : call.progress = .written)
      (answer : call.answer = some outcome) :
      call.AfterEnd { call with progress := .finished outcome }
  | walks (h : call.progress = .written) : call.AfterEnd { call with progress := .abandoned }

/-- The only outcome that a call may have is the end of its connection.  One that is registered or
written has it as its answer. -/
def Call.IsLost (call : Call) : Prop :=
  match call.progress with
  | .numbered => True
  | .finished outcome => outcome = .error .closed
  | _ => call.answer = some (.error .closed)

/-- The text of a call is not written: it is not even registered. -/
def Call.IsUnsent (call : Call) : Prop :=
  call.progress = .numbered ∨ call.progress = .finished (.error .closed)

theorem Call.AfterEnd.request {old new : Call} (h : old.AfterEnd new) :
    new.request = old.request := by
  cases h <;> rfl

theorem Call.AfterEnd.isLost {old new : Call} (h : old.AfterEnd new) (hlost : old.IsLost) :
    new.IsLost := by
  cases h with
  | stays => exact hlost
  | fails _ => rfl
  | writes hp | walks hp =>
    rw [IsLost, hp] at hlost
    exact hlost
  | reads outcome hp answer =>
    rw [IsLost, hp] at hlost
    exact Option.some.inj (answer.symm.trans hlost)

theorem Call.AfterEnd.isUnsent {old new : Call} (h : old.AfterEnd new) (hunsent : old.IsUnsent) :
    new.IsUnsent := by
  cases h with
  | stays => exact hunsent
  | fails _ => exact Or.inr rfl
  | writes hp | reads _ hp _ | walks hp =>
    rw [IsUnsent, hp] at hunsent
    rcases hunsent with hno | hno <;> exact Progress.noConfusion hno

namespace Connection

/-- Every call of the first connection goes on in the second one as it may after the end, and new
calls only have their numbers. -/
def CallsAfterEnd (c d : Connection) : Prop :=
  ∃ change added, d.calls = c.calls.map change ++ added ∧
    (∀ call ∈ c.calls, call.AfterEnd (change call)) ∧ ∀ call ∈ added, call.progress = .numbered

/-- No text is written for a number, nor registered. -/
structure Unsent (c : Connection) (id : RequestId) : Prop where
  call : ∀ call ∈ c.calls, call.id = id → call.IsUnsent
  written : ∀ q ∈ c.written, q.id ≠ id

/-- The caller of a request goes on until it has an outcome or has to wait. -/
def proceed (c : Connection) (id : RequestId) : Connection :=
  ((c.enroll id).write id).readAnswer id

variable {c d : Connection}

theorem callsAfterEnd_of_eq (h : d.calls = c.calls) : c.CallsAfterEnd d :=
  ⟨id, [], by rw [h, List.map_id, List.append_nil], fun _ _ => .stays, fun _ h => by cases h⟩

/-- Calls go on when one of them does. -/
theorem callsAfterEnd_update {id : RequestId} {f : Call → Call}
    (hcalls : d.calls = (c.updateCall id f).calls)
    (h : ∀ call ∈ c.calls, call.id = id → call.AfterEnd (f call)) : c.CallsAfterEnd d := by
  refine ⟨fun call => if call.id = id then f call else call, [], ?_, fun call hcall => ?_,
    fun _ h => by cases h⟩
  · rw [hcalls, List.append_nil]
    rfl
  · by_cases hid : call.id = id
    · simpa [hid] using h call hcall hid
    · simpa [hid] using Call.AfterEnd.stays

theorem callsAfterEnd_readAnswer (c : Connection) (id : RequestId) :
    c.CallsAfterEnd (c.readAnswer id) := by
  refine callsAfterEnd_update rfl fun call _ _ => ?_
  rcases Accounts.readAnswer_cases call with heq | ⟨outcome, hp, answer, heq⟩
  · rw [heq]
    exact .stays
  · rw [heq]
    exact .reads outcome hp answer

/-- A text is written only for a registered call. -/
theorem written_apply_cases (c : Connection) (operation : Operation) :
    (c.apply operation).written = c.written ∨ ∃ call ∈ c.calls, call.progress = .registered ∧
      (c.apply operation).written = c.written ++ [call.request] := by
  cases hasks : operation.asks with
  | false => exact Or.inl (c.requests_apply operation hasks).2
  | true =>
    cases operation with
    | issue method params => exact Or.inl rfl
    | enroll id =>
      simp only [apply, enroll]
      split
      · split <;> exact Or.inl rfl
      · exact Or.inl rfl
    | write id =>
      simp only [apply, write]
      split
      · rename_i call hcall
        split
        · rename_i hp
          exact Or.inr ⟨call, List.mem_of_find?_eq_some hcall, hp, rfl⟩
        · exact Or.inl rfl
      · exact Or.inl rfl
    | refuse id =>
      simp only [apply, refuse]
      split
      · split <;> exact Or.inl rfl
      · exact Or.inl rfl
    | _ => exact Bool.noConfusion hasks

end Connection

namespace Accounts

open Connection

variable {c d : Connection} {reply : RequestId → Option Response}

/-- On a closed connection nothing is pending. -/
theorem pending_of_closed (h : Accounts c reply) (hclosed : c.isClosed = true) :
    c.registry.pending = [] := by
  rw [List.eq_nil_iff_forall_not_mem]
  intro p hp
  obtain ⟨call, hcall, hid, -⟩ := h.pending p hp
  have hexpected : c.registry.isExpected call.id = true :=
    (Registry.isExpected_iff _ _).2 ⟨p, hp, hid.symm⟩
  have hopen := ((h.standing call hcall).of_expected hexpected).2.2.1
  exact Bool.eq_false_iff.1 hopen hclosed

/-- Calls go on when one that is found by its number does. -/
theorem callsAfterEnd_progress (h : Accounts c reply) {id : RequestId} {call : Call}
    {progress : Progress} (hcall : c.call? id = some call)
    (hgoes : call.AfterEnd { call with progress })
    (hcalls : d.calls = (c.updateCall id fun call => { call with progress }).calls) :
    c.CallsAfterEnd d := by
  obtain ⟨hmem, hid⟩ := h.call?_eq_some_iff.1 hcall
  refine callsAfterEnd_update hcalls fun other ho heq => ?_
  obtain rfl := h.eq_of_id_eq ho hmem (heq.trans hid.symm)
  exact hgoes

/-- After the end no operation registers a request, brings an answer or lets the time of a request
be over. -/
theorem calls_apply_of_closed (h : Accounts c reply) (hclosed : c.isClosed = true)
    (operation : Operation) : c.CallsAfterEnd (c.apply operation) := by
  have hregistry : c.registry.closed = true := hclosed
  cases operation with
  | issue method params =>
    refine ⟨id, [⟨c.lastRequest + 1, method, params, .numbered, none⟩], ?_, fun _ _ => .stays,
      fun call hcall => ?_⟩
    · rw [List.map_id]
      rfl
    · rw [List.mem_singleton.1 hcall]
  | enroll id =>
    simp only [Connection.apply, Connection.enroll]
    split
    · rename_i hcall
      rw [if_pos hregistry]
      exact h.callsAfterEnd_progress hcall (.fails (Or.inl rfl)) rfl
    · exact callsAfterEnd_of_eq rfl
  | write id =>
    simp only [Connection.apply, Connection.write]
    split
    · rename_i hcall
      split
      · rename_i hp
        exact h.callsAfterEnd_progress hcall (.writes hp) rfl
      · exact callsAfterEnd_of_eq rfl
    · exact callsAfterEnd_of_eq rfl
  | refuse id =>
    simp only [Connection.apply, Connection.refuse]
    split
    · rename_i hcall
      split
      · rename_i hp _
        exact h.callsAfterEnd_progress hcall (.fails (Or.inr hp)) rfl
      · exact callsAfterEnd_of_eq rfl
    · exact callsAfterEnd_of_eq rfl
  | readAnswer id => exact c.callsAfterEnd_readAnswer id
  | expire id =>
    simp only [Connection.apply, Connection.expire]
    split
    · rename_i limit id' method params hbound hcall
      -- A caller that waits has its answer since the end.
      have hmem := (h.call?_eq_some_iff.1 hcall).1
      have hopen := ((h.standing _ hmem).of_unanswered rfl rfl).2.1
      exact absurd hregistry (Bool.eq_false_iff.1 hopen)
    · exact c.callsAfterEnd_readAnswer id
    · exact callsAfterEnd_of_eq rfl
  | abandon id =>
    refine callsAfterEnd_update rfl fun call _ _ => ?_
    split
    · rename_i hp
      exact .walks hp
    · exact .stays
  | subscribe accepts => exact callsAfterEnd_of_eq (sameRequests_subscribe c accepts).calls.symm
  | observe method => exact callsAfterEnd_of_eq rfl
  | observeMalformed => exact callsAfterEnd_of_eq rfl
  | off id => exact callsAfterEnd_of_eq rfl
  | take id => exact callsAfterEnd_of_eq (sameRequests_take c id).calls.symm
  | receive text =>
    simp only [Connection.apply, Connection.receive]
    split
    · refine callsAfterEnd_of_eq (calls_dispatch_of_none ?_)
      rw [Registry.reply?_eq_none_iff]
      intro id _
      rw [Registry.isExpected, h.pending_of_closed hclosed]
      rfl
    · exact callsAfterEnd_of_eq rfl
  | hangUp =>
    simp only [Connection.apply, Connection.hangUp, Registry.close, hregistry, if_true]
    exact callsAfterEnd_of_eq (by simp)

/-- A call that is lost stays so. -/
theorem exists_isLost_run (h : Accounts c reply) (hclosed : c.isClosed = true) {call : Call}
    (hcall : call ∈ c.calls) (hlost : call.IsLost) (operations : List Operation) :
    ∃ last ∈ (c.run operations).calls, last.request = call.request ∧ last.IsLost := by
  induction operations generalizing c reply call with
  | nil => exact ⟨call, hcall, rfl, hlost⟩
  | cons operation rest ih =>
    obtain ⟨change, added, hcalls, hchange, -⟩ := h.calls_apply_of_closed hclosed operation
    have hmem : change call ∈ (c.apply operation).calls := by
      rw [hcalls]
      exact List.mem_append_left _ (List.mem_map_of_mem hcall)
    obtain ⟨last, hlast, hrequest, hstill⟩ := ih (h.apply operation)
      (isClosed_apply hclosed operation) hmem ((hchange call hcall).isLost hlost)
    exact ⟨last, hlast, hrequest.trans (hchange call hcall).request, hstill⟩

/-- What is not sent before the end is not sent after it. -/
theorem unsent_apply (h : Accounts c reply) (hclosed : c.isClosed = true) {id : RequestId}
    (hunsent : c.Unsent id) (operation : Operation) : (c.apply operation).Unsent id := by
  obtain ⟨change, added, hcalls, hchange, hadded⟩ := h.calls_apply_of_closed hclosed operation
  constructor
  · intro call hcall hid
    rw [hcalls, List.mem_append, List.mem_map] at hcall
    rcases hcall with ⟨old, hold, rfl⟩ | hnew
    · have hgoes := hchange old hold
      have hsame : old.id = id := (congrArg Request.id hgoes.request).symm.trans hid
      exact hgoes.isUnsent (hunsent.call old hold hsame)
    · exact Or.inl (hadded call hnew)
  · intro q hq
    rcases c.written_apply_cases operation with heq | ⟨call, hcall, hp, heq⟩
    · rw [heq] at hq
      exact hunsent.written q hq
    · rw [heq, List.mem_append] at hq
      rcases hq with hold | hnew
      · exact hunsent.written q hold
      · rw [List.mem_singleton.1 hnew]
        intro hid
        rcases hunsent.call call hcall hid with hno | hno <;>
          exact Progress.noConfusion (hp.symm.trans hno)

theorem unsent_run (h : Accounts c reply) (hclosed : c.isClosed = true) {id : RequestId}
    (hunsent : c.Unsent id) (operations : List Operation) : (c.run operations).Unsent id := by
  induction operations generalizing c reply with
  | nil => exact hunsent
  | cons operation rest ih =>
    exact ih (h.apply operation) (isClosed_apply hclosed operation)
      (h.unsent_apply hclosed hunsent operation)

end Accounts

/-! ### A caller goes on -/

namespace Connection

variable {c : Connection} {id : RequestId} {call : Call}

theorem call?_updateCall_progress (c : Connection) (id : RequestId) (progress : Progress) :
    (c.updateCall id fun call => { call with progress }).call? id =
      (c.call? id).map fun call => { call with progress } :=
  (c.call?_updateCall id id (f := fun call => { call with progress }) fun _ => rfl).trans
    (if_pos rfl)

/-- On a closed connection a numbered request fails. -/
theorem outcome?_enroll (hcall : c.call? id = some call) (hp : call.progress = .numbered)
    (hclosed : c.isClosed = true) : (c.enroll id).outcome? id = some (.error .closed) := by
  obtain ⟨number, method, params, progress, answer⟩ := call
  obtain rfl : progress = .numbered := hp
  have henroll : c.enroll id =
      c.updateCall id fun call => { call with progress := .finished (.error .closed) } := by
    rw [enroll, hcall]
    exact if_pos hclosed
  rw [henroll, outcome?, call?_updateCall_progress, hcall]
  rfl

theorem enroll_of_not_numbered (hcall : c.call? id = some call) (hp : call.progress ≠ .numbered) :
    c.enroll id = c := by
  rw [enroll, hcall]
  split
  · rename_i heq
    exact absurd (congrArg Call.progress (Option.some.inj heq)) hp
  · rfl

theorem call?_write (hcall : c.call? id = some call) (hp : call.progress = .registered) :
    (c.write id).call? id = some { call with progress := .written } := by
  have hwrite : c.write id = { c with written := c.written ++ [call.request] }.updateCall id
      fun call => { call with progress := .written } := by
    rw [write, hcall]
    dsimp only
    rw [hp]
  have hkept : ({ c with written := c.written ++ [call.request] } : Connection).call? id =
      some call := hcall
  rw [hwrite, call?_updateCall_progress, hkept, Option.map_some]

theorem write_of_not_registered (hcall : c.call? id = some call)
    (hp : call.progress ≠ .registered) : c.write id = c := by
  rw [write, hcall]
  dsimp only
  split
  · rename_i heq
    exact absurd heq hp
  · rfl

/-- On a closed connection a registered request fails without a writer. -/
theorem outcome?_refuse (hcall : c.call? id = some call) (hp : call.progress = .registered)
    (hclosed : c.isClosed = true) : (c.refuse id).outcome? id = some (.error .closed) := by
  have hrefuse : c.refuse id = { c with registry := c.registry.forget id }.updateCall id
      fun call => { call with progress := .finished (.error .closed) } := by
    have hregistry : c.registry.closed = true := hclosed
    rw [refuse, hcall]
    dsimp only
    rw [hp, hregistry]
  have hkept : ({ c with registry := c.registry.forget id } : Connection).call? id = some call :=
    hcall
  rw [hrefuse, outcome?, call?_updateCall_progress, hkept]
  rfl

theorem registry_write (c : Connection) (id : RequestId) : (c.write id).registry = c.registry := by
  rw [write]
  split
  · split <;> rfl
  · rfl

theorem registry_enroll_of_closed (hclosed : c.isClosed = true) (id : RequestId) :
    (c.enroll id).registry = c.registry := by
  have hregistry : c.registry.closed = true := hclosed
  rw [enroll]
  split
  · rw [if_pos hregistry]
    rfl
  · rfl

/-- A caller that waits reads the answer that is there. -/
theorem outcome?_readAnswer_of_answer {outcome : Except TransportError Value}
    (hcall : c.call? id = some call) (hp : call.progress = .written)
    (ha : call.answer = some outcome) : (c.readAnswer id).outcome? id = some outcome := by
  have hid (call : Call) : call.readAnswer.id = call.id :=
    congrArg Request.id call.continues_readAnswer.1
  rw [outcome?, readAnswer, c.call?_updateCall id id hid, if_pos rfl, hcall, Option.map_some,
    Option.bind_some, outcome?_eq_some_iff, Call.readAnswer, hp, ha]

end Connection

/-- A lost call fails as soon as its caller goes on, unless the caller has walked away. -/
theorem Accounts.outcome?_proceed {c : Connection} {reply : RequestId → Option Response}
    (h : Accounts c reply) (hclosed : c.isClosed = true) {call : Call} (hcall : call ∈ c.calls)
    (hlost : call.IsLost) (hp : call.progress ≠ .abandoned) :
    (c.proceed call.id).outcome? call.id = some (.error .closed) := by
  have hfound : c.call? call.id = some call := h.call?_eq_some_iff.2 ⟨hcall, rfl⟩
  rw [Connection.proceed]
  cases hprogress : call.progress with
  | numbered =>
    have hfails := Connection.outcome?_enroll hfound hprogress hclosed
    have hwrite := (h.enroll call.id).outcome?_apply (.write call.id) hfails
    exact ((h.enroll call.id).write call.id).outcome?_apply (.readAnswer call.id) hwrite
  | registered =>
    rw [Call.IsLost, hprogress] at hlost
    rw [Connection.enroll_of_not_numbered hfound fun heq => by simp [hprogress] at heq]
    exact Connection.outcome?_readAnswer_of_answer (Connection.call?_write hfound hprogress) rfl
      hlost
  | written =>
    rw [Call.IsLost, hprogress] at hlost
    rw [Connection.enroll_of_not_numbered hfound fun heq => by simp [hprogress] at heq,
      Connection.write_of_not_registered hfound fun heq => by simp [hprogress] at heq]
    exact Connection.outcome?_readAnswer_of_answer hfound hprogress hlost
  | finished outcome =>
    have hover : c.outcome? call.id = some (.error .closed) := by
      rw [Call.IsLost, hprogress] at hlost
      rw [Connection.outcome?, hfound, Option.bind_some, outcome?_eq_some_iff, hprogress, hlost]
    have henroll := h.outcome?_apply (.enroll call.id) hover
    have hwrite := (h.enroll call.id).outcome?_apply (.write call.id) henroll
    exact ((h.enroll call.id).write call.id).outcome?_apply (.readAnswer call.id) hwrite
  | abandoned => exact absurd hprogress hp

/-- The end of the connection loses every request that has no outcome and no answer. -/
theorem Accounts.exists_isLost_hangUp {c : Connection} {reply : RequestId → Option Response}
    (h : Accounts c reply) (hopen : c.isClosed = false) {call : Call} (hcall : call ∈ c.calls)
    (ho : call.outcome? = none) (ha : call.answer = none) :
    ∃ lost ∈ c.hangUp.calls, lost.request = call.request ∧ lost.IsLost := by
  have hregistry : c.registry.closed = false := hopen
  have hcalls : c.hangUp.calls = c.calls.map fun call =>
      if (c.registry.pending.map PendingRequest.id).contains call.id then
        call.reply (.error .closed) else call := by
    simp [Connection.hangUp, Registry.close, hregistry]
  refine ⟨_, hcalls ▸ List.mem_map_of_mem hcall, ?_, ?_⟩
  · split_ifs
    · exact (call.continues_reply _).1
    · rfl
  · by_cases hunder : call.progress.isUnderWay = true
    · have hexpected := ((h.standing call hcall).of_unanswered hunder ha).1
      obtain ⟨p, hp, hpid⟩ := (Registry.isExpected_iff _ _).1 hexpected
      have hcontains : (c.registry.pending.map PendingRequest.id).contains call.id = true :=
        List.contains_iff_mem.2 (List.mem_map.2 ⟨p, hp, hpid⟩)
      rw [if_pos hcontains, reply_of_unanswered ha, Call.IsLost]
      cases hp : call.progress <;> simp_all [Progress.isUnderWay]
    · have hnumbered : call.progress = .numbered := by
        cases hp : call.progress <;> simp_all [Progress.isUnderWay, Call.outcome?]
      rw [Call.IsLost]
      split_ifs
      · rw [progress_reply, hnumbered]
        trivial
      · rw [hnumbered]
        trivial

/-! ### Subscriptions after the end -/

namespace Numbered

open Connection

variable {c : Connection}

/-- After the end a subscription goes only when it is ended, and a new one comes last. -/
theorem subscriptions_apply_of_closed (h : Numbered c) (hclosed : c.isClosed = true)
    (operation : Operation) :
    ∃ added, (c.apply operation).registry.subscriptions =
        (c.registry.subscriptions.filter fun s => !operation.drops s.id) ++ added ∧
      ∀ s ∈ added, c.registry.lastSubscription < s.id := by
  refine ⟨c.added operation, ?_, fun s hs => ?_⟩
  · rw [subscriptions_apply]
    congr 1
    exact List.filter_congr fun s hs => c.keeps_eq_not_drops (h.closed hclosed s hs)
  · rw [(of_mem_added hs).1]
    exact Nat.lt_succ_self _

/-- After the end the subscriptions keep their order, whatever comes. -/
theorem subscriptions_run_of_closed (h : Numbered c) (hclosed : c.isClosed = true)
    (operations : List Operation) :
    ∃ added, (c.run operations).registry.subscriptions =
        (c.registry.subscriptions.filter fun s => !operations.any (·.drops s.id)) ++ added ∧
      ∀ s ∈ added, c.registry.lastSubscription < s.id := by
  induction operations generalizing c with
  | nil => exact ⟨[], by simp [Connection.run], fun _ h => by cases h⟩
  | cons operation rest ih =>
    obtain ⟨first, hfirst, hnumbers⟩ := h.subscriptions_apply_of_closed hclosed operation
    obtain ⟨later, hlater, hlast⟩ := ih (h.apply operation) (isClosed_apply hclosed operation)
    refine ⟨first.filter (fun s => !rest.any (·.drops s.id)) ++ later, ?_, fun s hs => ?_⟩
    · change ((c.apply operation).run rest).registry.subscriptions = _
      rw [hlater, hfirst, List.filter_append, List.filter_filter, List.append_assoc]
      congr 1
      refine List.filter_congr fun s _ => ?_
      rw [List.any_cons, Bool.not_or, Bool.and_comm]
    · rcases List.mem_append.1 hs with hold | hnew
      · exact hnumbers s (List.mem_filter.1 hold).1
      · have hle := c.lastSubscription_le_run [operation]
        exact Nat.lt_of_le_of_lt hle (hlast s hnew)

end Numbered

/-! ### The end of a connection -/

theorem isClosed_hangUp (c : Connection) : c.hangUp.isClosed = true := by
  have happly := c.isClosed_apply_eq .hangUp
  rwa [Connection.Operation.ends, Bool.or_true] at happly

theorem subscriptions_hangUp {c : Connection} (hopen : c.isClosed = false) :
    c.hangUp.registry.subscriptions =
      c.registry.subscriptions.filter fun s => !s.subscriber.isOnce := by
  have hregistry : c.registry.closed = false := hopen
  simp [Connection.hangUp, Registry.close, hregistry]

/-- A connection that has ended cannot end again. -/
theorem hangUp_of_closed {c : Connection} (hclosed : c.isClosed = true) : c.hangUp = c := by
  have hregistry : c.registry.closed = true := hclosed
  simp [Connection.hangUp, Registry.close, hregistry]

/-- A request that is made after the end fails, and nobody but its caller learns of it. -/
theorem Accounts.send_of_closed {c : Connection} {reply : RequestId → Option Response}
    (h : Accounts c reply) (hclosed : c.isClosed = true) (method : String)
    (params : Option Value) (later : List Connection.Operation) :
    (c.send method params).1.registry = c.registry ∧
      (c.send method params).1.written = c.written ∧
      ((c.send method params).1.run later).outcome? (c.send method params).2 =
        some (.error .closed) := by
  have hsent := ((h.issue method params).enroll (c.lastRequest + 1)).write (c.lastRequest + 1)
  obtain ⟨hcalls, hwritten⟩ := h.send_closed hclosed method params
  refine ⟨?_, hwritten, ?_⟩
  · exact (Connection.registry_write _ _).trans
      (Connection.registry_enroll_of_closed (c := (c.issue method params).1) hclosed _)
  · have hfound : (c.send method params).1.call? (c.lastRequest + 1) =
        some (c.sentCall method params) := hsent.call?_last hcalls
    refine hsent.outcome?_run later ?_
    change (c.send method params).1.outcome? (c.lastRequest + 1) = _
    rw [Connection.outcome?, hfound, Connection.sentCall, if_pos hclosed]
    rfl

/-- A waiter that comes after the end gets nothing. -/
theorem Numbered.subscribe_of_closed {c : Connection} (hn : Numbered c) (hd : Distinct c)
    (hclosed : c.isClosed = true) (accepts : Inbound → Bool)
    (later : List Connection.Operation) :
    (c.subscribe accepts).1.registry.subscriptions = c.registry.subscriptions ∧
      ((c.subscribe accepts).1.run later).receipt (c.subscribe accepts).2 = .closed := by
  have hregistry : c.registry.closed = true := hclosed
  obtain ⟨hwaits, hreceipt⟩ := Waits.subscribe hn accepts
  constructor
  · simp [Connection.subscribe, Registry.registerOnce, hregistry]
  · rw [hwaits.receipt_run (hn.apply (.subscribe accepts)) (hd.apply hn (.subscribe accepts)) later,
      hreceipt, if_pos hclosed, Receipt.foldl_next_closed]

/-- Requests that are not registered at the end, or are not even made, fail without being
registered or written. -/
theorem Accounts.unsent_of_closed {c : Connection} {reply : RequestId → Option Response}
    (h : Accounts c reply) {id : RequestId}
    (hid : c.lastRequest < id ∨ ∃ call ∈ c.calls, call.id = id ∧ call.progress = .numbered) :
    c.Unsent id := by
  rcases hid with hlate | ⟨asked, hasked, rfl, hp⟩
  · have hno : ∀ call ∈ c.calls, call.id ≠ id := fun call hcall heq =>
      absurd (h.exists_call_iff.1 ⟨call, hcall, heq⟩).2 (Nat.not_le.2 hlate)
    refine ⟨fun call hcall heq => absurd heq (hno call hcall), fun q hq heq => ?_⟩
    obtain ⟨call, hcall, hid, -⟩ := h.written q hq
    exact hno call hcall (hid.trans heq)
  · refine ⟨fun call hcall heq => ?_, fun q hq heq => ?_⟩
    · obtain rfl := h.eq_of_id_eq hcall hasked heq
      exact Or.inl hp
    · obtain ⟨call, hcall, hid, -, hwritten⟩ := h.written q hq
      obtain rfl := h.eq_of_id_eq hcall hasked (hid.trans heq)
      exact hwritten hp

/-- A caller whose request is unsent fails when it should be registered. -/
theorem Connection.Unsent.outcome?_enroll {c : Connection} {reply : RequestId → Option Response}
    (h : Accounts c reply) (hclosed : c.isClosed = true) {call : Call} (hcall : call ∈ c.calls)
    (hunsent : c.Unsent call.id) : (c.enroll call.id).outcome? call.id = some (.error .closed) := by
  have hfound := h.call?_eq_some_iff.2 ⟨hcall, rfl⟩
  rcases hunsent.call call hcall rfl with hp | hp
  · exact Connection.outcome?_enroll hfound hp hclosed
  · refine h.outcome?_apply (.enroll call.id) ?_
    rw [Connection.outcome?, hfound, Option.bind_some, outcome?_eq_some_iff, hp]

/-- A request without an outcome and an answer is lost when the connection ends: from then on it can
only fail with the end of the connection, does so as soon as its caller goes on, and never has
another outcome. -/
theorem Accounts.exists_lost_run_hangUp {c : Connection} {reply : RequestId → Option Response}
    (h : Accounts c reply) (hopen : c.isClosed = false) {call : Call} (hcall : call ∈ c.calls)
    (ho : call.outcome? = none) (ha : call.answer = none) (later : List Connection.Operation) :
    let d := c.hangUp.run later
    ∃ lost ∈ d.calls, lost.request = call.request ∧ lost.IsLost ∧
      (lost.progress ≠ .abandoned →
        (d.proceed call.id).outcome? call.id = some (.error .closed)) ∧
      (lost.progress = .registered →
        (d.refuse call.id).outcome? call.id = some (.error .closed)) ∧
      (lost.outcome?.isSome → ∀ more,
        (d.run more).outcome? call.id = some (.error .closed)) := by
  intro d
  have hended : c.hangUp.isClosed = true := isClosed_hangUp c
  obtain ⟨first, hfirst, hrequest, hlost⟩ := h.exists_isLost_hangUp hopen hcall ho ha
  obtain ⟨last, hlast, hsame, hstill⟩ := h.hangUp.exists_isLost_run hended hfirst hlost later
  obtain ⟨reply, hd⟩ := h.hangUp.exists_run later
  have hdclosed : d.isClosed = true := Connection.isClosed_run hended later
  have hid : last.id = call.id := congrArg Request.id (hsame.trans hrequest)
  rw [← hid]
  have hfound := hd.call?_eq_some_iff.2 ⟨hlast, rfl⟩
  refine ⟨last, hlast, hsame.trans hrequest, hstill, hd.outcome?_proceed hdclosed hlast hstill,
    fun hp => Connection.outcome?_refuse hfound hp hdclosed, fun hover more => ?_⟩
  obtain ⟨outcome, houtcome⟩ := Option.isSome_iff_exists.1 hover
  have hp := outcome?_eq_some_iff.1 houtcome
  rw [Call.IsLost, hp] at hstill
  refine hd.outcome?_run more ?_
  rw [Connection.outcome?, hfound, Option.bind_some, houtcome, hstill]

/-- The end of a connection is final and complete, whatever operations come before and after it.
When a connection ends, its waiters go and its observers stay in their order, and every request
without an outcome and an answer is lost: from then on it can only fail with the end of the
connection, does so as soon as its caller goes on, and never has another outcome.  On a connection
that has ended nothing is ever pending and nobody waits for a first frame; observers keep their
order until they are ended, and new ones come after them; to end the connection again changes
nothing; a request that was not registered at the end, or is made later, is never written, and
fails when it should be registered; one that is made at once fails without being registered or
written; and a waiter that comes later gets nothing. -/
theorem closing_is_final (bound : Option Duration) (operations : List Connection.Operation) :
    let c := (Connection.opened bound).run operations
    (c.isClosed = false →
      c.hangUp.isClosed = true ∧
      c.hangUp.registry.subscriptions =
        (c.registry.subscriptions.filter fun s => !s.subscriber.isOnce) ∧
      ∀ call ∈ c.calls, call.outcome? = none → call.answer = none → ∀ later,
        let d := c.hangUp.run later
        ∃ lost ∈ d.calls, lost.request = call.request ∧ lost.IsLost ∧
          (lost.progress ≠ .abandoned →
            (d.proceed call.id).outcome? call.id = some (.error .closed)) ∧
          (lost.progress = .registered →
            (d.refuse call.id).outcome? call.id = some (.error .closed)) ∧
          (lost.outcome?.isSome → ∀ more,
            (d.run more).outcome? call.id = some (.error .closed))) ∧
    (c.isClosed = true → ∀ later,
      let d := c.run later
      d.isClosed = true ∧
      d.registry.pending = [] ∧
      (∀ s ∈ d.registry.subscriptions, s.subscriber.isOnce = false) ∧
      (∃ added, d.registry.subscriptions =
          (c.registry.subscriptions.filter fun s => !later.any (·.drops s.id)) ++ added ∧
        ∀ s ∈ added, c.registry.lastSubscription < s.id) ∧
      d.hangUp = d ∧
      (∀ call ∈ d.calls, c.lastRequest < call.id ∨
          (∃ old ∈ c.calls, old.id = call.id ∧ old.progress = .numbered) →
        d.Unsent call.id ∧ (d.enroll call.id).outcome? call.id = some (.error .closed)) ∧
      (∀ method params more,
        (d.send method params).1.registry = d.registry ∧
        (d.send method params).1.written = d.written ∧
        ((d.send method params).1.run more).outcome? (d.send method params).2 =
          some (.error .closed)) ∧
      ∀ accepts more,
        (d.subscribe accepts).1.registry.subscriptions = d.registry.subscriptions ∧
        ((d.subscribe accepts).1.run more).receipt (d.subscribe accepts).2 = .closed) := by
  intro c
  have h : Accounts c fun id => (Connection.opened bound).firstReply? id operations :=
    accounts_run bound operations
  refine ⟨fun hopen => ⟨isClosed_hangUp c, subscriptions_hangUp hopen, fun call hcall ho ha later =>
    h.exists_lost_run_hangUp hopen hcall ho ha later⟩, fun hclosed later => ?_⟩
  intro d
  obtain ⟨reply, hd⟩ := h.exists_run later
  have hn : Numbered c := (numbered_opened bound).run operations
  have hdclosed : d.isClosed = true := Connection.isClosed_run hclosed later
  have hdn : Numbered d := hn.run later
  have hdd : Distinct d := by
    have hrun : d = (Connection.opened bound).run (operations ++ later) :=
      (Connection.run_append _ _ _).symm
    rw [hrun]
    exact distinct_run bound _
  refine ⟨hdclosed, hd.pending_of_closed hdclosed, hdn.closed hdclosed,
    hn.subscriptions_run_of_closed hclosed later, hangUp_of_closed hdclosed,
    fun call hcall hid => ?_, fun method params more => hd.send_of_closed hdclosed _ _ more,
    fun accepts more => hdn.subscribe_of_closed hdd hdclosed accepts more⟩
  have hunsent := h.unsent_run hclosed (h.unsent_of_closed hid) later
  exact ⟨hunsent, hunsent.outcome?_enroll hd hdclosed hcall⟩

end ValueTrace.Inspector
