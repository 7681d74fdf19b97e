import ValueTrace.Proofs.Inspector.OtherAnswer
import ValueTrace.Proofs.Stepping.AllOrNothing
import ValueTrace.Proofs.Stepping.OtherValue

/-!
# Locality of evaluations

The answer to an evaluation has an effect on one value only.  Of two runs in which everything is the
same but the response to one request for a value, both wait for this response on connections that
differ in it alone, until both record a value at the same place of the same history; and from then
on their connections differ in an answer that nobody looks at any more, and their histories in a
value that the engine never reads (`Outset.parted_run`).  So they send the same requests and end in
the same way (`evaluation_stays_local`).

## Main definitions

* `Parted` : two engines whose runs have differed in one answer.

## Main results

* `Parted.apply` : every event leaves two engines parted in this way only.
* `Outset.value_run` : the value that is recorded for a response.
* `evaluation_stays_local` : two runs that differ in one response.
-/

namespace ValueTrace.Stepping

open Inspector
open Json (Value)

variable {e e' : Engine} {expression : String} {place : Nat}

/-! ### Two runs with different answers -/

/-- An engine whose connection has got another answer goes on with waiters in the same order. -/
theorem Waiting.of_sameListeners (h : Waiting e) (hheld : e'.held = e.held)
    (hsame : SameListeners e.connection e'.connection) : Waiting e' where
  numbered := hsame.numbered h.numbered
  order := hheld ▸ h.order
  waits w hw := hsame.waits (h.waits w (hheld ▸ hw))
  accepted w hw m hm := h.accepted w (hheld ▸ hw) m ((hsame.receipt w.1).symm.trans hm)
  closed w hw hclosed :=
    hsame.closed.trans (h.closed w (hheld ▸ hw) ((hsame.receipt w.1).symm.trans hclosed))

/-- The engine finds all it looks at next also on a connection with another answer, unless it waits
for just this answer. -/
theorem sees_of_otherAnswer {id : RequestId} {outcome outcome' : Except TransportError Value}
    {c : Connection} (h : OtherAnswer id outcome outcome' e.connection c)
    (hp : ∀ errand, e.point ≠ .awaitingReply errand id) : Sees e c := by
  have hne {errand : Errand} {call : RequestId} (hcall : e.point = .awaitingReply errand call) :
      call ≠ id := by
    rintro rfl
    exact hp errand hcall
  refine ⟨?_, h.sameListeners.lastSubscription, fun w _ => h.sameListeners.receipt w.1,
    fun errand call hcall => ?_, fun errand call hcall => ?_⟩
  · rw [h.eq_calls]
  · exact (h.apply (.readAnswer call)).outcome?_of_ne (hne hcall)
  · exact (h.apply (.expire call)).outcome?_of_ne (hne hcall)

/-- Two engines whose runs have differed only in the answer to one evaluation: they both wait for
this answer, or both have recorded it, at the same place of the same history. -/
inductive Parted (call : RequestId) (outcome outcome' : Except TransportError Value)
    (expression : String) (place : Nat) (e : Engine) : Engine → Prop
  | unread {pause rest c d values}
      (hp : e.point = .awaitingReply (.evaluate pause expression rest) call)
      (hhistory : e.session.tracked.history? expression = some values)
      (hplace : values.length = place)
      (hother : OtherAnswer call outcome outcome' e.connection c) (halike : Alike (e.on c) d) :
      Parted call outcome outcome' expression place e (e.on d)
  | read {t c d} (hp : ∀ errand, e.point ≠ .awaitingReply errand call)
      (hsame : e.session.tracked.SameExcept expression place t)
      (hother : OtherAnswer call outcome outcome' e.connection c)
      (halike : Alike ((e.retrack t).on c) d) :
      Parted call outcome outcome' expression place e ((e.retrack t).on d)

namespace Parted

variable {call : RequestId} {outcome outcome' : Except TransportError Value}

/-- An engine that waits for the answer goes on with it on both sides, or still waits. -/
theorem replyFrom {record record' : ValueRecord}
    (hrecord : evaluationRecord outcome = .ok record)
    (hrecord' : evaluationRecord outcome' = .ok record') {pause : Pause} {rest : List String}
    {values : List ValueRecord} {c c₁ c₁' : Connection} {e₁ e₁' : Engine}
    (hp : e.point = .awaitingReply (.evaluate pause expression rest) call)
    (hhistory : e.session.tracked.history? expression = some values)
    (hother : OtherAnswer call outcome outcome' e.connection c)
    (hother₁ : OtherAnswer call outcome outcome' c₁ c₁')
    (he : e₁ = e.replyFrom c₁ (.evaluate pause expression rest) call)
    (he' : e₁' = (e.on c).replyFrom c₁' (.evaluate pause expression rest) call) {d : Connection}
    (halike : Alike e₁' d) :
    Parted call outcome outcome' expression values.length e₁ (e₁'.on d) := by
  rcases hother₁.outcome?_cases with ⟨hnone, hnone'⟩ | ⟨hsome, hsome'⟩
  · rw [Engine.replyFrom, hnone] at he
    rw [Engine.replyFrom, hnone'] at he'
    subst he he'
    exact .unread hp hhistory rfl hother halike
  · rw [Engine.replyFrom, hsome] at he
    rw [Engine.replyFrom, hsome'] at he'
    simp only [Engine.handleReply, hrecord] at he
    simp only [Engine.handleReply, hrecord'] at he'
    obtain ⟨counted, point, hnext⟩ := Engine.evaluateNext_eq { e with
      connection := c₁, session := e.session.record expression record } pause rest
    have hpoint : ∀ errand, e₁.point ≠ .awaitingReply errand call := by
      rw [he]
      cases rest <;> simp [Engine.evaluateNext, Engine.goTo]
    have hparted : e₁' = (e₁.retrack (e.session.tracked.record expression record').1).on c₁' := by
      rw [he, he']
      cases rest <;> rfl
    have hconnection : e₁.connection = c₁ := by
      rw [he]
      exact congrArg Engine.connection hnext
    have htracked : e₁.session.tracked = (e.session.tracked.record expression record).1 := by
      rw [he]
      exact congrArg (·.session.tracked) hnext
    rw [hparted] at halike ⊢
    refine .read hpoint ?_ (hconnection ▸ hother₁) halike
    rw [htracked]
    exact .of_record hhistory record record'

/-- Once the answer has been recorded, what the engine does by itself, in the same way on both
sides, never waits for it again. -/
theorem own {t : TrackedExpressions} {c : Connection} {d₁ e₁ e₁' : Engine}
    (hp : ∀ errand, e.point ≠ .awaitingReply errand call)
    (hother : OtherAnswer call outcome outcome' e.connection c) (hown : e₁ = e ∨ Move e e₁)
    (hvalue : OtherValue expression place e₁ e₁')
    (hparallel : Parallel (e.retrack t) c e₁' d₁) :
    (∀ errand, e₁.point ≠ .awaitingReply errand call) ∧ ∃ t' c',
      d₁ = (e₁.retrack t').on c' ∧ e₁.session.tracked.SameExcept expression place t' ∧
        OtherAnswer call outcome outcome' e₁.connection c' := by
  obtain ⟨t', rfl, hsame⟩ := hvalue
  obtain ⟨operations, hconnection, hd⟩ := hparallel
  refine ⟨fun errand => ?_, t', c.run operations, hd, hsame, ?_⟩
  · rcases hown with rfl | hmove
    · exact hp errand
    · cases hasking : e.point.isAsking with
      | false => exact hmove.not_awaitingReply hasking errand call
      | true =>
        obtain ⟨errand', hp'⟩ := Point.exists_of_isAsking hasking
        rw [hmove.eq_ask hp']
        intro hawaits
        have hnew : e.connection.lastRequest + 1 = call :=
          (Point.awaitingReply.inj hawaits).2
        exact absurd (hnew ▸ hother.first.issued) (Nat.not_succ_le_self _)
  · have hrun : e₁.connection = e.connection.run operations := hconnection
    rw [hrun]
    exact hother.run operations

/-- Every event leaves the two engines parted in this way only. -/
theorem apply {record record' : ValueRecord} (hrecord : evaluationRecord outcome = .ok record)
    (hrecord' : evaluationRecord outcome' = .ok record')
    (h : Parted call outcome outcome' expression place e e') (hwaiting : Waiting e)
    (hwaiting' : Waiting e') (event : Event) :
    Parted call outcome outcome' expression place (e.apply event) (e'.apply event) := by
  cases h with
  | @unread pause rest c d values hp hhistory hplace hother halike =>
    obtain ⟨d', happly, hnext⟩ := halike.apply
      (hwaiting.of_sameListeners rfl hother.sameListeners) hwaiting' event
    change (e.on d).apply event = _ at happly
    rw [happly, ← hplace]
    cases event with
    | frame text => exact .unread hp hhistory rfl (hother.apply (.receive text)) hnext
    | hangUp => exact .unread hp hhistory rfl (hother.apply .hangUp) hnext
    | step =>
      exact replyFrom hrecord hrecord' hp hhistory hother (hother.apply (.readAnswer call))
        (Engine.step_of_awaitingReply hp) (Engine.step_of_awaitingReply (e := e.on c) hp) hnext
    | elapse =>
      exact replyFrom hrecord hrecord' hp hhistory hother (hother.apply (.expire call))
        (Engine.elapse_of_awaitingReply hp) (Engine.elapse_of_awaitingReply (e := e.on c) hp) hnext
  | @read t c d hp hsame hother halike =>
    have hvalue : OtherValue expression place e (e.retrack t) := ⟨t, rfl, hsame⟩
    have hsees : Sees (e.retrack t) c := sees_of_otherAnswer hother hp
    obtain ⟨d', happly, hnext⟩ := halike.apply
      (hwaiting.of_sameListeners rfl hother.sameListeners) hwaiting' event
    change ((e.retrack t).on d).apply event = _ at happly
    rw [happly]
    cases event with
    | frame text => exact .read hp hsame (hother.apply (.receive text)) hnext
    | hangUp => exact .read hp hsame (hother.apply .hangUp) hnext
    | step =>
      obtain ⟨hp', t', c', heq, hsame', hother'⟩ :=
        own hp hother e.step_cases hvalue.step hsees.parallel_step
      change Alike ((e.retrack t).on c).step d' at hnext
      change Parted _ _ _ _ _ e.step (((e.retrack t).on c).step.on d')
      rw [heq] at hnext ⊢
      exact .read hp' hsame' hother' hnext
    | elapse =>
      obtain ⟨hp', t', c', heq, hsame', hother'⟩ :=
        own hp hother e.elapse_cases hvalue.elapse hsees.parallel_elapse
      change Alike ((e.retrack t).on c).elapse d' at hnext
      change Parted _ _ _ _ _ e.elapse (((e.retrack t).on c).elapse.on d')
      rw [heq] at hnext ⊢
      exact .read hp' hsame' hother' hnext

end Parted

/-! ### Runs with different answers -/

namespace Outset

variable (o : Outset)

/-- A request for a value that is expected is the one that the engine waits for. -/
theorem evaluating_of_expected (events : List Event) {q : Request}
    (hq : q ∈ (o.run events).asked o.connection.lastRequest .evaluateOnCallFrame)
    (hexpected : (o.run events).connection.registry.isExpected q.id = true) :
    ∃ pause expression rest,
      q = ⟨q.id, Method.evaluateOnCallFrame.name,
        some (evaluationParams pause.callFrameId expression true true)⟩ ∧
      (o.run events).point = .awaitingReply (.evaluate pause expression rest) q.id := by
  obtain ⟨reply, haccounts, -⟩ := o.exists_accounts_run events
  obtain ⟨-, hselected⟩ := List.mem_filter.1 hq
  rw [Bool.and_eq_true, decide_eq_true_eq] at hselected
  obtain ⟨errand, hp⟩ := o.awaitsExpected_run events q.id hselected.1 hexpected
  rcases (o.chronicle_run events).readings with hlost | ⟨pauses, readings, -, hledger⟩
  · rw [hp] at hlost
    cases errand <;> exact Stage.noConfusion hlost
  rw [hledger.requests, List.mem_append] at hq
  rcases hq with hread | hawaited
  · obtain ⟨reading, hreading, rfl⟩ := List.mem_map.1 hread
    obtain ⟨outcome, houtcome, -⟩ := hledger.answered reading hreading
    exact absurd hexpected (Bool.eq_false_iff.1 (haccounts.isExpected_eq_false houtcome))
  · rw [hp] at hawaited
    cases errand with
    | evaluate pause expression rest =>
      exact ⟨pause, expression, rest, List.mem_singleton.1 hawaited, hp⟩
    | _ => exact absurd hawaited List.not_mem_nil

variable {before : List Event} {pause : Pause} {expression : String} {rest : List String}
  {call : RequestId}

/-- While an expression is evaluated, its history has one value for every pause that has been
counted. -/
theorem exists_history
    (hp : (o.run before).point = .awaitingReply (.evaluate pause expression rest) call) :
    ∃ values, (o.run before).session.tracked.history? expression = some values ∧
      values.length = (o.run before).pauses := by
  have hstage : (o.run before).point.stage = .evaluating pause expression rest call := by
    rw [hp]
    rfl
  rcases (o.chronicle_run before).readings with hlost | ⟨pauses, readings, -, hledger⟩
  · exact Stage.noConfusion (hstage.symm.trans hlost)
  · exact hledger.exists_history hstage ((o.inOrder_run before).of_evaluating hstage)

/-- When the engine makes a move while it waits for the value of an expression, the run fails, or
the value of the answer is recorded. -/
theorem value_of_move {events : List Event} {event : Event}
    (hp : (o.run events).point = .awaitingReply (.evaluate pause expression rest) call)
    {values : List ValueRecord}
    (hvalues : (o.run events).session.tracked.history? expression = some values)
    (hmove : Move (o.run events) (o.run (events ++ [event]))) :
    (o.run (events ++ [event])).point.stage = .lost ∨
      ∃ answer, o.Arrives (events ++ [event]) call answer ∧
        (o.run (events ++ [event])).session.tracked.value? expression values.length =
          some (recordOf answer) := by
  obtain ⟨reply, haccounts, -⟩ := o.exists_accounts_run events
  obtain ⟨found, hadvance⟩ := hmove.advance ⟨reply, haccounts⟩ (Nat.zero_le _)
  have hstage : (o.run events).point.stage = .evaluating pause expression rest call := by
    rw [hp]
    rfl
  have hno {stage : Stage} (h : (o.run events).point.stage = stage) :
      stage = .evaluating pause expression rest call := h.symm.trans hstage
  cases hadvance with
  | lose hafter => exact Or.inl hafter
  | stay hafter =>
    have hawaits := Point.eq_of_evaluating (hafter.trans hstage)
    exact absurd hawaits (hmove.not_awaitingReply (by rw [hp]; rfl) _ _)
  | @record pause' expression' rest' call' connection outcome value hbefore houtcome hrecord
      hrequests heq =>
    obtain ⟨rfl, rfl, rfl, rfl⟩ := Stage.evaluating.inj (hno hbefore)
    rcases (o.chronicle_run events).readings with hlost | ⟨pauses, readings, -, hledger⟩
    · exact Stage.noConfusion (hno hlost)
    have hledger' := hledger.record (hmove.keeps ⟨reply, haccounts⟩).2.2 hbefore houtcome hrecord
      hrequests heq
    obtain ⟨answer, harrives, hvalue⟩ := hledger'.exists_answer
      (List.mem_append_right readings (List.mem_singleton_self _))
    have htracked : (o.run (events ++ [event])).session.tracked =
        ((o.run events).session.tracked.record expression' value).1 := by
      obtain ⟨counted, point, hnext⟩ := Engine.evaluateNext_eq
        { o.run events with connection, session := (o.run events).session.record expression' value }
        pause' rest'
      rw [heq, hnext]
      rfl
    refine Or.inr ⟨answer, harrives, ?_⟩
    rw [htracked, TrackedExpressions.value?_record _ hvalues]
    exact congrArg some hvalue
  | @reach first _ hbefore => cases first <;> exact Stage.noConfusion (hno hbefore)
  | finish hbefore =>
    rcases hbefore with hbefore | hbefore <;> exact Stage.noConfusion (hno hbefore)
  | _ => exact Stage.noConfusion (hno ‹(o.run events).point.stage = _›)

/-- From the moment when an expression is evaluated, its answer is awaited, or the run fails, or the
value of the answer has been recorded. -/
theorem value_run
    (hp : (o.run before).point = .awaitingReply (.evaluate pause expression rest) call)
    (after : List Event) :
    let e := o.run (before ++ after)
    (e.point = .awaitingReply (.evaluate pause expression rest) call ∧
        e.session.tracked = (o.run before).session.tracked) ∨
      e.point.stage = .lost ∨
      ∃ answer, o.Arrives (before ++ after) call answer ∧
        e.session.tracked.value? expression (o.run before).pauses = some (recordOf answer) := by
  obtain ⟨values, hvalues, hlength⟩ := o.exists_history hp
  induction after using List.reverseRecOn with
  | nil =>
    rw [List.append_nil]
    exact Or.inl ⟨hp, rfl⟩
  | append_singleton after event ih =>
    obtain ⟨reply, haccounts, -⟩ := o.exists_accounts_run (before ++ after)
    have hrun := o.run_concat (before ++ after) event
    have hearlier {answer : Response} (h : o.Arrives (before ++ after) call answer) :
        o.Arrives (before ++ after ++ [event]) call answer :=
      o.arrives_concat_iff.2 (Or.inl h)
    rw [← List.append_assoc]
    rcases (o.run (before ++ after)).apply_cases event with ⟨connection, hsame⟩ | hmove
    · rw [hrun, hsame]
      exact ih.imp_right (Or.imp_right fun ⟨answer, harrives, hvalue⟩ =>
        ⟨answer, hearlier harrives, hvalue⟩)
    · rw [← hrun] at hmove
      rcases ih with ⟨hpoint, htracked⟩ | hlost | ⟨answer, harrives, hvalue⟩
      · rw [← hlength]
        exact Or.inr (o.value_of_move hpoint (htracked ▸ hvalues) hmove)
      · obtain ⟨found, hadvance⟩ := hmove.advance ⟨reply, haccounts⟩ (Nat.zero_le _)
        exact Or.inr (Or.inl (hadvance.lost hlost))
      · rcases hmove.retains ⟨reply, haccounts⟩ (o.chronicle_run _) with hlost | hretains
        · exact Or.inr (Or.inl hlost)
        · exact Or.inr (Or.inr ⟨answer, hearlier harrives, hretains.value? hvalue⟩)

/-- Two responses to the same evaluation part two runs. -/
theorem parted_frame
    (hp : (o.run before).point = .awaitingReply (.evaluate pause expression rest) call)
    (hexpected : (o.run before).connection.registry.isExpected call = true) {text text' : String}
    {r r' : Response} (ht : Inbound.ofText? text = .ok (.response r))
    (ht' : Inbound.ofText? text' = .ok (.response r')) (hr : r.id = call) (hr' : r'.id = call) :
    Parted call (r.outcomeFor Method.evaluateOnCallFrame.name)
      (r'.outcomeFor Method.evaluateOnCallFrame.name) expression (o.run before).pauses
      (o.run (before ++ [.frame text])) (o.run (before ++ [.frame text'])) := by
  obtain ⟨reply, haccounts, -⟩ := o.exists_accounts_run before
  obtain ⟨k, hk, hrequest, hcalled⟩ := o.asked_run before _ call hp
  obtain ⟨values, hvalues, hlength⟩ := o.exists_history hp
  obtain rfl : k.id = call := congrArg Request.id hrequest
  have hmethod : k.method = Method.evaluateOnCallFrame.name := congrArg Request.method hrequest
  have hwritten : k.progress = .written := by
    have hunder := ((haccounts.standing k hk).of_expected hexpected).1
    cases hprogress : k.progress <;>
      simp [hprogress, Progress.isUnderWay, Progress.isCalled] at hunder hcalled ⊢
  obtain ⟨c, hother, hsame⟩ :=
    exists_otherAnswer_dispatch haccounts hk hwritten hexpected hr hr'
  have hlast (m : Inbound) : ((o.run before).connection.dispatch m).registry.lastSubscription =
      (o.run before).connection.registry.lastSubscription := by
    rw [((o.run before).connection.dispatch_eq m).2.2.2.1, Registry.lastSubscription_dispatch]
  have hreceive : (o.run before).connection.receive text =
      (o.run before).connection.dispatch (.response r) := by
    rw [Connection.receive, ht]
  have hreceive' : (o.run before).connection.receive text' =
      (o.run before).connection.dispatch (.response r') := by
    rw [Connection.receive, ht']
  rw [o.run_concat, o.run_concat, Engine.apply, Engine.apply, hreceive, hreceive', ← hmethod]
  refine .unread hp hvalues hlength hother ⟨hsame, ?_, fun w hw => ?_⟩
  · exact ((hlast _).trans (hlast _).symm).trans hother.sameListeners.lastSubscription.symm
  · have hnone : Engine.held { o.run before with connection := c } = [] := by
      rw [Engine.held, hp]
      rfl
    exact absurd (hnone ▸ hw) List.not_mem_nil

/-- The two runs differ in nothing but the answer, whatever else happens. -/
theorem parted_run
    (hp : (o.run before).point = .awaitingReply (.evaluate pause expression rest) call)
    (hexpected : (o.run before).connection.registry.isExpected call = true) {text text' : String}
    {r r' : Response} (ht : Inbound.ofText? text = .ok (.response r))
    (ht' : Inbound.ofText? text' = .ok (.response r')) (hr : r.id = call) (hr' : r'.id = call)
    (after : List Event) :
    Parted call (r.outcomeFor Method.evaluateOnCallFrame.name)
      (r'.outcomeFor Method.evaluateOnCallFrame.name) expression (o.run before).pauses
      (o.run (before ++ .frame text :: after)) (o.run (before ++ .frame text' :: after)) := by
  rw [List.append_cons before (.frame text) after, List.append_cons before (.frame text') after]
  induction after using List.reverseRecOn with
  | nil =>
    rw [List.append_nil, List.append_nil]
    exact o.parted_frame hp hexpected ht ht' hr hr'
  | append_singleton after event ih =>
    rw [← List.append_assoc, ← List.append_assoc, o.run_concat, o.run_concat]
    exact ih.apply (evaluationRecord_outcomeFor r) (evaluationRecord_outcomeFor r')
      (o.waiting_run _) (o.waiting_run _) event

/-- Once a response to an evaluation has arrived, the engine still waits to read it, or the run
fails, or the value of the response is recorded. -/
theorem value_of_frame
    (hp : (o.run before).point = .awaitingReply (.evaluate pause expression rest) call)
    (hexpected : (o.run before).connection.registry.isExpected call = true)
    (hsince : o.connection.lastRequest < call) {text : String} {r : Response}
    (ht : Inbound.ofText? text = .ok (.response r)) (hr : r.id = call) (after : List Event) :
    let e := o.run (before ++ .frame text :: after)
    e.point = .awaitingReply (.evaluate pause expression rest) call ∨ e.point.stage = .lost ∨
      e.session.tracked.value? expression (o.run before).pauses = some (recordOf r) := by
  refine (o.value_run hp (.frame text :: after)).imp And.left (Or.imp_right ?_)
  rintro ⟨found, hfound, hvalue⟩
  have harrives : o.Arrives (before ++ .frame text :: after) call r :=
    ⟨before, text, after, rfl, ht, hr, hexpected⟩
  rw [harrives.unique hfound hsince]
  exact hvalue

/-- A response that is not expected changes nothing for the run. -/
theorem alike_of_unexpected (before after : List Event) {text : String} {r : Response}
    (ht : Inbound.ofText? text = .ok (.response r))
    (hunexpected : (o.run before).connection.registry.isExpected r.id = false) :
    ∃ c, o.run (before ++ .frame text :: after) = (o.run (before ++ after)).on c ∧
      Alike (o.run (before ++ after)) c := by
  have hnoise : (o.run before).isNoise text = true := by
    simp only [Engine.isNoise, ht, hunexpected, Bool.not_false]
  rw [List.append_cons]
  exact o.exists_alike (fun _ _ => Engine.ignores_of_isNoise)
    (((Padded.refl before).put text hnoise).append after)

end Outset

/-- What parted runs have in common. -/
theorem Parted.common {call : RequestId} {outcome outcome' : Except TransportError Value}
    (h : Parted call outcome outcome' expression place e e') :
    e'.connection.written = e.connection.written ∧
      e'.connection.requests = e.connection.requests ∧ e'.point = e.point ∧ e'.state = e.state ∧
      e'.pauses = e.pauses ∧ e'.halts = e.halts ∧ e'.breakpointId = e.breakpointId ∧
      e'.session = { e.session with tracked := e'.session.tracked } ∧
      e.session.tracked.SameExcept expression place e'.session.tracked := by
  have hconnection {c d : Connection} (hother : OtherAnswer call outcome outcome' e.connection c)
      (hsame : SameRequests c d) :
      d.written = e.connection.written ∧ d.requests = e.connection.requests := by
    refine ⟨?_, ?_⟩
    · rw [← hsame.written, hother.eq_calls]
    · rw [← hother.requests, Connection.requests, ← hsame.calls]
      rfl
  cases h with
  | unread hp hhistory hplace hother halike =>
    obtain ⟨hwritten, hrequests⟩ := hconnection hother halike.requests
    exact ⟨hwritten, hrequests, rfl, rfl, rfl, rfl, rfl, rfl, .refl _⟩
  | read hp hsame hother halike =>
    obtain ⟨hwritten, hrequests⟩ := hconnection hother halike.requests
    exact ⟨hwritten, hrequests, rfl, rfl, rfl, rfl, rfl, rfl, hsame⟩

/-- A response without a result that can be read leaves the mark of an undetermined value. -/
theorem recordOf_of_unreadable {r : Response} (h : ∀ result evaluation, r.outcome = .ok result →
    Json.decodeValue Evaluation.decoder result ≠ .ok evaluation) : recordOf r = .undetermined := by
  rw [recordOf]
  cases hr : r.outcome with
  | error body => rfl
  | ok result =>
    cases hdecode : Json.decodeValue Evaluation.decoder result with
    | error error => simp only [hdecode]
    | ok evaluation => exact absurd hdecode (h result evaluation hr)

/-- The answer to an evaluation has only local effects.  Take any run in which a value has been
asked for, and continue it in two ways that differ only in a response to this request: any result,
any error, or anything that cannot be read.  Both runs send the same requests and end in the same
way, after the same number of pauses.  If the response is not expected any more, it has no effect at
all.  Otherwise the request asks for one expression at the pause that is evaluated at this moment,
and the value of that pause is still missing in its history; the candidates and histories of both
runs are the same except perhaps for this one value.  Once the response has been read, unless the
run fails, the value is in either run what the response says, and it is the mark of an undetermined
value if the response is an error or cannot be read. -/
theorem evaluation_stays_local (o : Outset) {before after : List Event} {q : Request}
    (hq : q ∈ (o.run before).asked o.connection.lastRequest .evaluateOnCallFrame)
    {text text' : String} {r r' : Response} (ht : Inbound.ofText? text = .ok (.response r))
    (ht' : Inbound.ofText? text' = .ok (.response r')) (hr : r.id = q.id) (hr' : r'.id = q.id) :
    let k := (o.run before).pauses
    let e := o.run (before ++ .frame text :: after)
    let e' := o.run (before ++ .frame text' :: after)
    e'.connection.written = e.connection.written ∧
    e'.connection.requests = e.connection.requests ∧
    e'.outcome? = e.outcome? ∧ e'.pauses = e.pauses ∧ e'.state = e.state ∧
    ((o.run before).connection.registry.isExpected q.id = false → e'.session = e.session) ∧
    ((o.run before).connection.registry.isExpected q.id = true → ∃ pause expression rest,
      q = ⟨q.id, Method.evaluateOnCallFrame.name,
        some (evaluationParams pause.callFrameId expression true true)⟩ ∧
      (o.run before).point = .awaitingReply (.evaluate pause expression rest) q.id ∧
      (∃ values, (o.run before).session.tracked.history? expression = some values ∧
        values.length = k) ∧
      e'.session = { e.session with tracked := e'.session.tracked } ∧
      e.session.tracked.SameExcept expression k e'.session.tracked ∧
      (e.point = .awaitingReply (.evaluate pause expression rest) q.id ∨ e.point.stage = .lost ∨
        (e.session.tracked.value? expression k = some (recordOf r) ∧
          e'.session.tracked.value? expression k = some (recordOf r'))) ∧
      (∀ n, e.outcome? = some (.ok n) →
        e.session.tracked.value? expression k = some (recordOf r) ∧
          e'.session.tracked.value? expression k = some (recordOf r'))) ∧
    ((∀ result evaluation, r.outcome = .ok result →
      Json.decodeValue Evaluation.decoder result ≠ .ok evaluation) →
        recordOf r = .undetermined) := by
  intro k e e'
  cases hexpected : (o.run before).connection.registry.isExpected q.id with
  | false =>
    obtain ⟨c, hrun, halike⟩ := o.alike_of_unexpected before after ht (hr ▸ hexpected)
    obtain ⟨c', hrun', halike'⟩ := o.alike_of_unexpected before after ht' (hr' ▸ hexpected)
    have hsame : SameRequests c c' := halike.requests.symm.trans halike'.requests
    have heq : e' = e.on c' := hrun'.trans (congrArg (Engine.on · c') hrun).symm
    have hconnection : e.connection = c := congrArg Engine.connection hrun
    rw [heq, Engine.on_connection, hconnection]
    refine ⟨hsame.written.symm, ?_, rfl, rfl, rfl, fun _ => rfl, Bool.noConfusion,
      recordOf_of_unreadable⟩
    rw [Connection.requests, Connection.requests, hsame.calls]
  | true =>
    obtain ⟨pause, expression, rest, hrequest, hp⟩ := o.evaluating_of_expected before hq hexpected
    have hsince : o.connection.lastRequest < q.id := by
      have hselected := (List.mem_filter.1 hq).2
      rw [Bool.and_eq_true, decide_eq_true_eq] at hselected
      exact hselected.1
    obtain ⟨hwritten, hrequests, hpoint, hstate, hpauses, -, -, hsession, hsame⟩ :=
      (o.parted_run hp hexpected ht ht' hr hr' after).common
    have houtcome : e'.outcome? = e.outcome? := by
      rw [Engine.outcome?, hpoint, Engine.outcome?]
    have hvalues : e.point = .awaitingReply (.evaluate pause expression rest) q.id ∨
        e.point.stage = .lost ∨
          (e.session.tracked.value? expression k = some (recordOf r) ∧
            e'.session.tracked.value? expression k = some (recordOf r')) := by
      rcases o.value_of_frame hp hexpected hsince ht hr after with hawaits | hlost | hfirst
      · exact Or.inl hawaits
      · exact Or.inr (Or.inl hlost)
      · rcases o.value_of_frame hp hexpected hsince ht' hr' after with hawaits | hlost | hsecond
        · exact Or.inl (hpoint.symm.trans hawaits)
        · exact Or.inr (Or.inl ((congrArg Point.stage hpoint).symm.trans hlost))
        · exact Or.inr (Or.inr ⟨hfirst, hsecond⟩)
    refine ⟨hwritten, hrequests, houtcome, hpauses, hstate, Bool.noConfusion, fun _ => ⟨pause,
      expression, rest, hrequest, hp, o.exists_history hp, hsession, hsame, hvalues,
      fun n hn => ?_⟩, recordOf_of_unreadable⟩
    rcases hvalues with hawaits | hlost | hboth
    · exact Point.noConfusion ((Engine.point_of_outcome? hn).symm.trans hawaits)
    · exact Stage.noConfusion ((Engine.stage_of_outcome? hn).symm.trans hlost)
    · exact hboth

/-- Whether a text is the response to a request, and leaves a value. -/
def leaves (text : String) (id : RequestId) (value : ValueRecord) : Bool :=
  match Inbound.ofText? text with
  | .ok (.response r) => r.id = id && recordOf r = value
  | _ => false

theorem exists_of_leaves {text : String} {id : RequestId} {value : ValueRecord}
    (h : leaves text id value = true) :
    ∃ r, Inbound.ofText? text = .ok (.response r) ∧ r.id = id ∧ recordOf r = value := by
  rw [leaves] at h
  split at h
  · rename_i r hr
    rw [Bool.and_eq_true, decide_eq_true_eq, decide_eq_true_eq] at h
    exact ⟨r, hr, h.1, h.2⟩
  · exact Bool.noConfusion h

/-- The debuggee has halted at the breakpoint, and the value of the one expression is awaited. -/
def sampleEvaluating : List Event := sampleResumed ++ [.halt ["line 2"]] ++ steps 7

/-- The value of the expression is 1. -/
def sampleValue : String :=
  (Inbound.response ⟨7, some (.object [("result",
    .object [("type", .string "number"), ("description", .string "1")])]), none⟩).text

/-- The value of the expression is refused. -/
def sampleRefusal : String :=
  (Inbound.response ⟨7, none, some ⟨-32000, "Cannot find frame", none⟩⟩).text

/-- An answer arrives, and the debuggee is resumed, and ends. -/
def sampleAnswered (text : String) : Engine :=
  sample.run (sampleEvaluating ++ .frame text ::
    (steps 6 ++ [.answer 8 none, .news .resumed []] ++ steps 4 ++ [.contextEnd 1] ++ steps 9))

/-- The sample ends in the same way with a value and without. -/
theorem evaluation_stays_local_sample :
    (sampleAnswered sampleValue).outcome? = some (.ok 1) ∧
      (sampleAnswered sampleRefusal).outcome? = some (.ok 1) ∧
      ∃ expression,
        (sampleAnswered sampleValue).session.tracked.value? expression 0 = some ⟨"1"⟩ ∧
        (sampleAnswered sampleRefusal).session.tracked.value? expression 0 =
          some .undetermined := by
  have hfacts : (sampleAnswered sampleValue).outcome? = some (.ok 1) ∧
      (sample.run sampleEvaluating).pauses = 0 ∧
      (sample.run sampleEvaluating).connection.registry.isExpected 7 = true ∧
      (((sample.run sampleEvaluating).asked sample.connection.lastRequest .evaluateOnCallFrame).any
        fun q => q.id = 7) = true ∧
      leaves sampleValue 7 ⟨"1"⟩ = true ∧ leaves sampleRefusal 7 .undetermined = true := by
    decide +kernel
  obtain ⟨houtcome, hpauses, hexpected, hasked, hvalue, hrefusal⟩ := hfacts
  obtain ⟨q, hq, hid⟩ := List.any_eq_true.1 hasked
  rw [decide_eq_true_eq] at hid
  obtain ⟨r, ht, hr, hrecord⟩ := exists_of_leaves hvalue
  obtain ⟨r', ht', hr', hrecord'⟩ := exists_of_leaves hrefusal
  rw [← hid] at hexpected hr hr'
  obtain ⟨-, -, hsame, -, -, -, hlocal, -⟩ := evaluation_stays_local sample hq ht ht' hr hr'
  obtain ⟨pause, expression, rest, -, -, -, -, -, -, hend⟩ := hlocal hexpected
  rw [hpauses, hrecord, hrecord'] at hend
  simp only [sampleAnswered] at houtcome ⊢
  exact ⟨houtcome, hsame.trans houtcome, expression, hend 1 houtcome⟩

end ValueTrace.Stepping
