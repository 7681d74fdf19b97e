import Mathlib.Data.List.Infix
import ValueTrace.Proofs.Stepping.Trace

/-!
# One request at a time

On a connection that was just made, the engine makes a request only after it has been served with
all earlier ones.  So at most one request is pending, only the latest can be without an answer, and
only the answer to the latest can be one with which the engine does not go on
(`Outset.serial_run`).

## Main definitions

* `Outset.fresh` : the start of a run on a connection that was just made.
* `Served` : a request has an outcome with which the engine goes on.
* `Serial` : all requests but the latest have been served.
-/

namespace ValueTrace.Stepping

open Inspector
open Json (Value)

variable {e e' : Engine}

/-- The same start on a connection that was just made. -/
def Outset.fresh (o : Outset) : Outset := { o with past := [] }

/-! ### Requests that have been served -/

/-- A request has an answer with which the engine goes on: any answer to an evaluation, and success
for everything else. -/
def Served (e : Engine) (q : Request) : Prop :=
  ∃ outcome, e.connection.outcome? q.id = some outcome ∧
    (∃ value, evaluationRecord outcome = .ok value) ∧
    (q.method ≠ Method.evaluateOnCallFrame.name → ∃ result, outcome = .ok result)

/-- What has been served stays so. -/
theorem Served.mono {q : Request} (h : Served e q)
    (hkept : ∀ id outcome, e.connection.outcome? id = some outcome →
      e'.connection.outcome? id = some outcome) : Served e' q := by
  obtain ⟨outcome, houtcome, hanswer, hsuccess⟩ := h
  exact ⟨outcome, hkept _ _ houtcome, hanswer, hsuccess⟩

/-- A successful answer can always be recorded. -/
theorem exists_evaluationRecord (result : Value) :
    ∃ value, evaluationRecord (.ok result) = .ok value := by
  cases hdecode : Json.decodeValue Evaluation.decoder result <;>
    simp [evaluationRecord, Except.bind, decodeResult, Except.mapError, hdecode]

/-- The engine goes on with the outcome of its request, or the run fails. -/
theorem Move.served (h : Move e e') {errand : Errand} {call : RequestId}
    (hp : e.point = .awaitingReply errand call) :
    e'.point.stage = .lost ∨ Served e' ⟨call, errand.method.name, e.params errand⟩ := by
  have hno {point : Point} (h : e.point = point) : point = .awaitingReply errand call :=
    h.symm.trans hp
  have hsame {errand' : Errand} {call' : RequestId} {connection : Connection}
      {outcome : Except TransportError Value} (ha : Answered e errand' call' connection outcome) :
      errand' = errand ∧ connection.outcome? call = some outcome := by
    obtain ⟨rfl, rfl⟩ := Point.awaitingReply.inj (hno ha.point)
    exact ⟨rfl, ha.outcome⟩
  cases h with
  | @proceed _ _ _ result _ ha _ =>
    obtain ⟨rfl, houtcome⟩ := hsame ha
    exact Or.inr ⟨.ok result, houtcome, exists_evaluationRecord result, fun _ => ⟨result, rfl⟩⟩
  | @install _ _ result _ ha _ =>
    obtain ⟨rfl, houtcome⟩ := hsame ha
    exact Or.inr ⟨.ok result, houtcome, exists_evaluationRecord result, fun _ => ⟨result, rfl⟩⟩
  | @record pause expression rest call' connection outcome value ha hrecord =>
    obtain ⟨rfl, houtcome⟩ := hsame ha
    refine Or.inr ⟨outcome, ?_, ⟨value, hrecord⟩, fun hother => absurd rfl hother⟩
    obtain ⟨pauses, point, heq⟩ := Engine.evaluateNext_eq
      { e with connection, session := e.session.record expression value } pause rest
    rw [heq]
    exact houtcome
  | fail _ => exact Or.inl rfl
  | refuse hentry _ => exact Or.inl rfl
  | enter hentry _ => cases hentry <;> exact Point.noConfusion (hno ‹e.point = _›)
  | expect hw => cases hw <;> exact Point.noConfusion (hno ‹e.point = _›)
  | giveBack hr => cases hr <;> exact Point.noConfusion (hno ‹e.point = _›)
  | _ => exact Point.noConfusion (hno ‹e.point = _›)

/-! ### One request at a time -/

/-- How the latest request stands: it is awaited, or all requests have been served, unless the run
has failed. -/
inductive Latest (e : Engine) : Prop
  | awaited {errand call} (hp : e.point = .awaitingReply errand call)
      (hlast : e.connection.requests.getLast? =
        some ⟨call, errand.method.name, e.params errand⟩)
  | served (hquiet : ∀ errand call, e.point ≠ .awaitingReply errand call)
      (hserved : ∀ q ∈ e.connection.requests, Served e q)
  | lost (hlost : e.point.stage = .lost)

/-- All requests but the latest have been served, and all of them have been written as long as the
connection lasted. -/
structure Serial (e : Engine) : Prop where
  served : ∀ q ∈ e.connection.requests.dropLast, Served e q
  latest : Latest e
  written : e.connection.written <+: e.connection.requests
  all : e.connection.isClosed = false → e.connection.written = e.connection.requests

namespace Serial

/-- What the other side does to the connection changes nothing about the requests. -/
theorem operation (h : Serial e) (ha : e.Accounted) (operation : Connection.Operation)
    (hquiet : operation.asks = false) :
    Serial { e with connection := e.connection.apply operation } := by
  obtain ⟨reply, haccounts⟩ := ha
  obtain ⟨hrequests, hwritten⟩ := e.connection.requests_apply operation hquiet
  have hkept : ∀ id outcome, e.connection.outcome? id = some outcome →
      (e.connection.apply operation).outcome? id = some outcome :=
    fun _ _ houtcome => haccounts.outcome?_apply operation houtcome
  refine ⟨fun q hq => (h.served q (hrequests ▸ hq)).mono hkept, ?_, ?_, fun hopen => ?_⟩
  · cases h.latest with
    | awaited hp hlast => exact .awaited hp (hrequests ▸ hlast)
    | served hquiet hserved =>
      exact .served hquiet fun q hq => (hserved q (hrequests ▸ hq)).mono hkept
    | lost hlost => exact .lost hlost
  · rw [hwritten, hrequests]
    exact h.written
  · rw [hwritten, hrequests]
    exact h.all (Connection.isClosed_of_run [operation] hopen)

/-- Before the engine makes a request, it has been served with all earlier ones. -/
theorem served_of_asking (h : Serial e) {errand : Errand} (hp : e.point = .asking errand) :
    ∀ q ∈ e.connection.requests, Served e q := by
  cases h.latest with
  | awaited hp' _ => exact Point.noConfusion (hp.symm.trans hp')
  | served _ hserved => exact hserved
  | lost hlost =>
    rw [hp] at hlost
    cases errand <;> exact Stage.noConfusion hlost

/-- A new request is the latest one. -/
theorem ask (h : Serial e) (ha : e.Accounted) {errand : Errand} (hp : e.point = .asking errand) :
    Serial (e.ask errand) := by
  have hkept := ((Move.ask hp).keeps ha).2.2
  have hserved := h.served_of_asking hp
  obtain ⟨reply, haccounts⟩ := ha
  have hrequests : (e.ask errand).connection.requests = e.connection.requests ++
      [⟨e.connection.lastRequest + 1, errand.method.name, e.params errand⟩] := by
    change (e.connection.send errand.method.name (e.params errand)).1.calls.map _ = _
    rw [haccounts.calls_send, List.map_append]
    rfl
  refine ⟨fun q hq => ?_, .awaited rfl ?_, ?_, fun hopen => ?_⟩
  · rw [hrequests, List.dropLast_concat] at hq
    exact (hserved q hq).mono hkept
  · rw [hrequests, List.getLast?_concat]
    rfl
  · rw [hrequests]
    cases hclosed : e.connection.isClosed with
    | true =>
      have hwritten : (e.ask errand).connection.written = e.connection.written :=
        (haccounts.send_closed hclosed errand.method.name (e.params errand)).2
      rw [hwritten]
      exact h.written.trans (List.prefix_append _ _)
    | false =>
      have hwritten : (e.ask errand).connection.written = e.connection.written ++ [_] :=
        (haccounts.send_open hclosed errand.method.name (e.params errand)).2
      rw [hwritten, h.all hclosed]
      exact List.prefix_rfl
  · obtain ⟨operations, heq, -⟩ := (Move.ask hp).operates
    rw [heq] at hopen
    have hbefore := Connection.isClosed_of_run operations hopen
    have hwritten : (e.ask errand).connection.written = e.connection.written ++ [_] :=
      (haccounts.send_open hbefore errand.method.name (e.params errand)).2
    rw [hwritten, hrequests, h.all hbefore]
    rfl

/-- Every move keeps the requests in line. -/
theorem move (h : Serial e) (ha : e.Accounted) (hmove : Move e e') : Serial e' := by
  cases hasking : e.point.isAsking with
  | true =>
    obtain ⟨errand, hp⟩ := Point.exists_of_isAsking hasking
    rw [hmove.eq_ask hp]
    exact h.ask ha hp
  | false =>
    obtain ⟨hrequests, hwritten⟩ := hmove.requests hasking
    have hkept := (hmove.keeps ha).2.2
    refine ⟨fun q hq => (h.served q (hrequests ▸ hq)).mono hkept, ?_, ?_, fun hopen => ?_⟩
    · have hquiet := hmove.not_awaitingReply hasking
      cases h.latest with
      | @awaited errand call hp hlast =>
        -- The latest request is served now, or the run has failed.
        rcases hmove.served hp with hlost | hserved
        · exact .lost hlost
        · refine .served hquiet fun q hq => ?_
          rw [hrequests, ← List.dropLast_append_getLast? _ hlast, List.mem_append,
            List.mem_singleton] at hq
          rcases hq with hold | rfl
          · exact (h.served q hold).mono hkept
          · exact hserved
      | served _ hserved =>
        exact .served hquiet fun q hq => (hserved q (hrequests ▸ hq)).mono hkept
      | lost hlost =>
        obtain ⟨found, hadvance⟩ := hmove.advance ha (Nat.zero_le _)
        exact .lost (hadvance.lost hlost)
    · rw [hwritten, hrequests]
      exact h.written
    · obtain ⟨operations, heq, -⟩ := hmove.operates
      rw [heq] at hopen
      rw [hwritten, hrequests]
      exact h.all (Connection.isClosed_of_run operations hopen)

/-- At most one request is pending. -/
theorem pending_length_le_one (h : Serial e) (ha : e.Accounted)
    (hnodup : (e.connection.registry.pending.map PendingRequest.id).Nodup) :
    e.connection.registry.pending.length ≤ 1 := by
  obtain ⟨reply, haccounts⟩ := ha
  -- A pending request is none of those that have been served, so it is the latest.
  have hlatest : ∀ p ∈ e.connection.registry.pending,
      e.connection.requests.getLast?.map Request.id = some p.id := by
    intro p hp
    obtain ⟨call, hcall, hid, -⟩ := haccounts.pending p hp
    have hexpected : e.connection.registry.isExpected call.id = true :=
      (Registry.isExpected_iff _ _).2 ⟨p, hp, hid.symm⟩
    have hmem : call.request ∈ e.connection.requests := List.mem_map_of_mem hcall
    obtain ⟨last, hlast⟩ := Option.isSome_iff_exists.1
      (List.getLast?_isSome.2 (List.ne_nil_of_mem hmem))
    rw [← List.dropLast_append_getLast? _ hlast, List.mem_append, List.mem_singleton] at hmem
    rcases hmem with hserved | rfl
    · obtain ⟨outcome, houtcome, -⟩ := h.served _ hserved
      exact absurd hexpected (Bool.eq_false_iff.1 (haccounts.isExpected_eq_false houtcome))
    · rw [hlast, Option.map_some, ← hid]
      rfl
  cases hpending : e.connection.registry.pending with
  | nil => exact Nat.zero_le _
  | cons first rest =>
    rw [hpending] at hlatest hnodup
    have hall : ∀ id ∈ (first :: rest).map PendingRequest.id, id = first.id := by
      intro id hid
      obtain ⟨p, hp, rfl⟩ := List.mem_map.1 hid
      exact Option.some.inj ((hlatest p hp).symm.trans (hlatest first List.mem_cons_self))
    rw [List.eq_replicate_of_mem hall, List.nodup_replicate, List.length_map] at hnodup
    exact hnodup

end Serial

namespace Outset

variable (o : Outset)

/-- On a connection that was just made, the engine makes one request at a time. -/
theorem serial_run (events : List Event) : Serial (o.fresh.run events) := by
  refine o.fresh.run_induction events ?_ (fun e text ha h => h.operation ha (.receive text) rfl)
    (fun e ha h => h.operation ha .hangUp rfl) fun e e' ha h hmove => h.move ha hmove
  have hnone : o.fresh.engine.connection.requests = [] := rfl
  refine ⟨fun q hq => ?_, .served (fun _ _ => Point.noConfusion) fun q hq => ?_,
    List.nil_prefix, fun _ => rfl⟩
  · rw [hnone] at hq
    exact absurd hq List.not_mem_nil
  · rw [hnone] at hq
    exact absurd hq List.not_mem_nil

/-- The requests that are written are numbered from 1 on. -/
theorem ids_written_run (events : List Event) :
    let written := (o.fresh.run events).connection.written
    written.map Request.id = List.range' 1 written.length := by
  intro written
  obtain ⟨reply, haccounts, -⟩ := o.fresh.exists_accounts_run events
  obtain ⟨rest, hrest⟩ := (o.serial_run events).written
  have hids : List.range' 1 (o.fresh.run events).connection.calls.length =
      written.map Request.id ++ rest.map Request.id := by
    rw [← List.map_append, hrest, Connection.requests, List.map_map]
    exact haccounts.ids.symm
  obtain ⟨k, -, hwritten, -⟩ := List.range'_eq_append_iff.1 hids
  have hlength : written.length = k := by
    rw [← List.length_map (f := Request.id), hwritten, List.length_range']
  rw [hlength, hwritten]

/-- All numbers are positive, as they are greater than those given before. -/
theorem id_pos_of_written (events : List Event) {q : Request}
    (hq : q ∈ (o.fresh.run events).connection.written) :
    o.fresh.connection.lastRequest < q.id := by
  have hid := List.mem_map_of_mem (f := Request.id) hq
  rw [o.ids_written_run events, List.mem_range'_1] at hid
  exact hid.1

/-- All written requests but the latest have been answered, and all but evaluations with success. -/
theorem answered_of_mem_dropLast (events : List Event) {q : Request}
    (hq : q ∈ (o.fresh.run events).connection.written.dropLast) :
    ∃ r, o.fresh.Arrives events q.id r ∧
      (q.method ≠ Method.evaluateOnCallFrame.name → ∃ result, r.outcome = .ok result) := by
  have hserial := o.serial_run events
  have hearlier : q ∈ (o.fresh.run events).connection.requests.dropLast := by
    obtain ⟨rest, hrest⟩ := hserial.written
    rw [← hrest]
    cases rest with
    | nil => rwa [List.append_nil]
    | cons next rest =>
      rw [List.dropLast_append_of_ne_nil (List.cons_ne_nil _ _)]
      exact List.mem_append_left _ (List.mem_of_mem_dropLast hq)
  have hmem := List.mem_of_mem_dropLast hearlier
  have hid := o.id_pos_of_written events (List.mem_of_mem_dropLast hq)
  obtain ⟨outcome, houtcome, ⟨value, hvalue⟩, hsuccess⟩ := hserial.served q hearlier
  rcases o.fresh.outcome_cases events hmem hid houtcome with ⟨r, harrives, rfl⟩ | rfl | ⟨limit, rfl⟩
  · refine ⟨r, harrives, fun hmethod => ?_⟩
    obtain ⟨result, hresult⟩ := hsuccess hmethod
    exact ⟨result, Response.outcome_of_outcomeFor hresult⟩
  · exact absurd hvalue (by simp [evaluationRecord, Except.bind])
  · exact absurd hvalue (by simp [evaluationRecord, Except.bind])

/-- When a request is written, all earlier ones have been answered before. -/
theorem answered_before {before : List Event} {event : Event}
    (hwritten : (o.fresh.run before).connection.written ≠
      (o.fresh.run (before ++ [event])).connection.written)
    {q : Request} (hq : q ∈ (o.fresh.run before).connection.written) :
    ∃ r, o.fresh.Arrives before q.id r := by
  obtain ⟨reply, haccounts, -⟩ := o.fresh.exists_accounts_run before
  have hrun := o.fresh.run_concat before event
  obtain ⟨added, hadded, -⟩ :=
    Engine.written_apply (e := o.fresh.run before) ⟨reply, haccounts⟩ event
  have hnew : added ≠ [] := by
    rintro rfl
    rw [hrun, hadded, List.append_nil] at hwritten
    exact hwritten rfl
  have hmem : q ∈ (o.fresh.run (before ++ [event])).connection.written.dropLast := by
    rw [hrun, hadded, List.dropLast_append_of_ne_nil hnew]
    exact List.mem_append_left _ hq
  obtain ⟨r, harrives, -⟩ := o.answered_of_mem_dropLast (before ++ [event]) hmem
  refine ⟨r, (arrives_concat_iff _).1 harrives |>.resolve_right ?_⟩
  -- A frame writes nothing, so the answer has not come with this event.
  rintro ⟨text, rfl, -⟩
  rw [hrun] at hwritten
  exact hwritten ((o.fresh.run before).connection.requests_apply (.receive text) rfl).2.symm

/-- After the answer to a request that is no evaluation is an error, nothing is written. -/
theorem getLast?_of_error (events : List Event) {q : Request}
    (hq : q ∈ (o.fresh.run events).connection.written)
    (hmethod : q.method ≠ Method.evaluateOnCallFrame.name) {r : Response} {body : ErrorBody}
    (harrives : o.fresh.Arrives events q.id r) (herror : r.outcome = .error body) :
    (o.fresh.run events).connection.written.getLast? = some q := by
  obtain ⟨last, hlast⟩ := Option.isSome_iff_exists.1
    (List.getLast?_isSome.2 (List.ne_nil_of_mem hq))
  have hmem := hq
  rw [← List.dropLast_append_getLast? _ hlast, List.mem_append, List.mem_singleton] at hmem
  rcases hmem with hearlier | rfl
  · obtain ⟨r', harrives', hsuccess⟩ := o.answered_of_mem_dropLast events hearlier
    obtain ⟨result, hresult⟩ := hsuccess hmethod
    obtain rfl := harrives.unique harrives' (o.id_pos_of_written events hq)
    rw [hresult] at herror
    exact absurd herror (by simp)
  · exact hlast

end Outset

end ValueTrace.Stepping
