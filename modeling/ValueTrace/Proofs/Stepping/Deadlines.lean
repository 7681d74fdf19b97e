import ValueTrace.Proofs.Stepping.Errands
import ValueTrace.Proofs.Stepping.Lockstep
import ValueTrace.Proofs.Stepping.Unwinding

/-!
# Deadlines

A run is suspended when a step of the engine changes nothing although the run is not over; this is
just the case at the three points where it waits for a reply, for an event or for the
acknowledgement of a resume (`Engine.step_eq_self_iff`).  When requests and pauses are bounded, the
first two waits have a timer, and when it ends the run fails with an error that names the bound
(`waits_have_deadlines`).  The third wait has none: once the request to resume has been answered,
only the other side can make the run go on (`acknowledgement_has_no_deadline`).

## Main definitions

* `SessionError.timeLimit?` : the bound that an error names.
* `Point.awaitsAcknowledgement` : the run waits for the acknowledgement of a resume.

## Main results

* `Engine.step_eq_self_iff` : when a run is suspended.
* `waits_have_deadlines` : how a suspended run goes on by itself.
-/

namespace ValueTrace

/-- The bound whose end an error reports. -/
def SessionError.timeLimit? : SessionError → Option Duration
  | .pauseTimeout bound => some bound
  | .transport (.timeout _ _ bound) | .configuration _ (.timeout _ _ bound) => some bound
  | _ => none

namespace Stepping

open Inspector
open Json (Value)

variable {o : Outset} {e e' : Engine}

/-! ### Suspended runs -/

/-- Whether a run waits for the acknowledgement of a resume. -/
def Point.awaitsAcknowledgement : Point → Bool
  | .awaitingResumed .. => true
  | _ => false

/-- Every move changes something: the point, or what is still to be given back. -/
theorem Move.ne (h : Move e e') : e' ≠ e := by
  intro hsame
  have hpoint : e'.point = e.point := congrArg Engine.point hsame
  cases h with
  | observe hp =>
    rw [hp] at hpoint
    exact List.cons_ne_self _ _ (Point.observing.inj hpoint).symm
  | enter hentry _ => cases hentry <;> exact Point.noConfusion (hpoint.trans ‹e.point = _›)
  | refuse hentry _ => cases hentry <;> exact Point.noConfusion (hpoint.trans ‹e.point = _›)
  | expect hw => cases hw <;> exact Point.noConfusion (hpoint.trans ‹e.point = _›)
  | giveBack hr =>
    cases hr with
    | context hp | resumed hp => exact Point.noConfusion (hpoint.trans hp)
    | event hp =>
      obtain ⟨hrest, -⟩ := Point.releasingEvent.inj (hpoint.trans hp)
      exact List.cons_ne_self _ _ hrest.symm
  | ask hp => exact Point.noConfusion (hpoint.trans hp)
  | @proceed errand _ _ _ _ ha hnext =>
    cases errand <;> simp only [Errand.next?, Option.some.injEq, reduceCtorEq] at hnext
    all_goals
      subst hnext
      exact Point.noConfusion (hpoint.trans ha.point)
  | install ha _ => exact Point.noConfusion (hpoint.trans ha.point)
  | @record _ _ rest _ _ _ _ ha _ =>
    cases rest <;> exact Point.noConfusion (hpoint.trans ha.point)
  | note hp _ => exact Point.noConfusion (hpoint.trans hp)
  | noteNothing hp _ => exact Point.noConfusion (hpoint.trans hp)
  | @pause first _ _ hp _ => cases first <;> exact Point.noConfusion (hpoint.trans hp)
  | halt hp => exact Point.noConfusion (hpoint.trans hp)
  | skip hp _ _ => exact Point.noConfusion (hpoint.trans hp)
  | @discover pause hp =>
    have hleft (expressions : List String) :
        ((e.discover pause).evaluateNext pause expressions).point ≠ .discovering pause := by
      cases expressions <;> exact Point.noConfusion
    exact hleft _ (hpoint.trans hp)
  | acknowledge hp _ => exact Point.noConfusion (hpoint.trans hp)
  | fail ht =>
    have hover := ht.isOver_eq_false
    rw [← hpoint] at hover
    exact Bool.noConfusion hover
  | releaseWaiter _ hwaiters =>
    exact List.cons_ne_self _ _ ((congrArg Engine.waiters hsame).trans hwaiters).symm
  | releaseObserver _ _ hobservers =>
    exact List.cons_ne_self _ _ ((congrArg Engine.observers hsame).trans hobservers).symm
  | @conclude outcome hp _ _ => cases outcome <;> exact Point.noConfusion (hpoint.trans hp)

/-- A move leads to a point at which no step is to be taken only if the run is over. -/
theorem Move.outcome?_of_isAtRest (h : Move e e') (hrest : e'.point.isAtRest = true) :
    e'.outcome?.isSome = true := by
  cases h with
  | enter hentry _ => cases hentry <;> exact Bool.noConfusion hrest
  | expect hw => cases hw <;> exact Bool.noConfusion hrest
  | giveBack hr => cases hr <;> exact Bool.noConfusion hrest
  | @proceed errand _ _ _ _ _ hnext =>
    cases errand <;> simp only [Errand.next?, Option.some.injEq, reduceCtorEq] at hnext
    all_goals
      subst hnext
      exact Bool.noConfusion hrest
  | @record _ _ rest => cases rest <;> exact Bool.noConfusion hrest
  | @pause first => cases first <;> exact Bool.noConfusion hrest
  | @discover pause =>
    have hleft (expressions : List String) :
        ((e.discover pause).evaluateNext pause expressions).point.isAtRest ≠ true := by
      cases expressions <;> exact Bool.noConfusion
    exact absurd hrest (hleft _)
  | releaseWaiter hp _ =>
    change e.point.isAtRest = true at hrest
    rw [hp] at hrest
    exact Bool.noConfusion hrest
  | releaseObserver hp _ _ =>
    change e.point.isAtRest = true at hrest
    rw [hp] at hrest
    exact Bool.noConfusion hrest
  | @conclude outcome => cases outcome <;> rfl
  | _ => exact Bool.noConfusion hrest

/-- A run is at a point at which no step is to be taken only if it is over. -/
theorem Outset.outcome?_of_isAtRest (o : Outset) (events : List Event) :
    (o.run events).point.isAtRest = true → (o.run events).outcome?.isSome = true :=
  Engine.run_induction (P := fun e => e.point.isAtRest = true → e.outcome?.isSome = true) events
    (fun h => Bool.noConfusion h) (fun _ _ h => h) (fun _ h => h)
    fun _ _ _ hmove hrest => hmove.outcome?_of_isAtRest hrest

namespace Engine

/-- A step changes nothing exactly when the run has to wait or no step is to be taken. -/
theorem step_eq_self_iff : e.step = e ↔ e.isBlocked = true ∨ e.point.isAtRest = true := by
  constructor
  · intro hstep
    by_contra hno
    rw [not_or, Bool.not_eq_true, Bool.not_eq_true] at hno
    exact (move_step hno.1 hno.2).ne hstep
  · rintro (hblocked | hrest)
    · exact step_eq_of_isBlocked hblocked
    · exact step_eq_of_isAtRest hrest

/-- While the acknowledgement of a resume is missing, neither steps nor time change anything. -/
theorem run_eq_self (hstep : e.step = e) (hwait : e.point.awaitsAcknowledgement = true)
    {own : List Event} (hown : ∀ event ∈ own, event = .step ∨ event = .elapse) : e.run own = e := by
  have helapse : e.elapse = e := by
    cases hp : e.point <;> simp [hp, Point.awaitsAcknowledgement] at hwait
    simp only [elapse, hp]
  induction own with
  | nil => rfl
  | cons event rest ih =>
    have happly : e.apply event = e := by
      rcases hown event List.mem_cons_self with rfl | rfl
      · exact hstep
      · exact helapse
    rw [run_cons, happly]
    exact ih fun other hother => hown other (List.mem_cons_of_mem _ hother)

end Engine

/-! ### Timers -/

/-- A written request without an answer fails when its time is over. -/
theorem outcome?_expire_of_unanswered {c : Connection} {reply : RequestId → Option Response}
    (h : Accounts c reply) {bound : Duration} (hbound : c.requestBound = some bound) {call : Call}
    (hcall : call ∈ c.calls) (hwritten : call.progress = .written) (hanswer : call.answer = none) :
    (c.expire call.id).outcome? call.id = some (.error (.timeout call.method call.id bound)) := by
  have hfound : c.call? call.id = some ⟨call.id, call.method, call.params, .written, none⟩ := by
    rw [h.call?_eq_some_iff, ← hwritten, ← hanswer]
    exact ⟨hcall, rfl⟩
  have hcalls : (c.expire call.id).calls = c.calls.map fun k => if k.id = call.id then
      { k with progress := .finished (.error (.timeout call.method call.id bound)) } else k := by
    simp only [Connection.expire, hbound, hfound]
    rfl
  have hover : (c.expire call.id).call? call.id =
      some { call with progress := .finished (.error (.timeout call.method call.id bound)) } := by
    rw [(h.expire call.id).call?_eq_some_iff, hcalls]
    exact ⟨List.mem_map.2 ⟨call, hcall, if_pos rfl⟩, rfl⟩
  rw [Connection.outcome?, hover]
  rfl

/-- A request that has timed out ends the run, whatever it was for. -/
theorem Engine.handleReply_timeout (e : Engine) (errand : Errand) (method : String)
    (call : RequestId) (bound : Duration) :
    ∃ error : SessionError, error.timeLimit? = some bound ∧
      e.handleReply errand (.error (.timeout method call bound)) =
        { e with point := .unwinding (.error error) } := by
  cases errand with
  | evaluate | resume => exact ⟨.transport (.timeout method call bound), rfl, rfl⟩
  | _ => exact ⟨.configuration _ (.timeout method call bound), rfl, rfl⟩

/-- When the time of a wait with a timer is over, the outcome is certain: it is an error that names
the time. -/
theorem Engine.elapse_of_timer? (ha : e.Accounted) (hasked : Asked e)
    (hblocked : e.isBlocked = true)
    {bound : Duration} (htimer : e.timer? = some bound) :
    ∃ connection error, SessionError.timeLimit? error = some bound ∧
      e.elapse = { e with connection, point := .unwinding (.error error) } := by
  cases hp : e.point with
  | awaitingReply errand call =>
    simp only [timer?, hp] at htimer
    simp only [isBlocked, hp, Option.isNone_iff_eq_none] at hblocked
    obtain ⟨k, hk, hrequest, hcalled⟩ := hasked errand call hp
    obtain rfl : k.id = call := congrArg Request.id hrequest
    obtain ⟨reply, haccounts⟩ := ha
    obtain ⟨hwritten, hanswer⟩ := written_of_outcome?_readAnswer haccounts hk hcalled hblocked
    have houtcome := outcome?_expire_of_unanswered haccounts htimer hk hwritten hanswer
    obtain ⟨error, hlimit, hfailed⟩ := Engine.handleReply_timeout
      { e with connection := e.connection.expire k.id } errand k.method k.id bound
    refine ⟨e.connection.expire k.id, error, hlimit, ?_⟩
    simp only [elapse, hp, houtcome]
    exact hfailed
  | awaitingEvent first next =>
    simp only [timer?, hp] at htimer
    simp only [isBlocked, hp, Option.isNone_iff_eq_none] at hblocked
    refine ⟨e.connection, .pauseTimeout bound, rfl, ?_⟩
    simp only [elapse, hp, htimer, hblocked]
    rfl
  | _ => simp [timer?, hp] at htimer

/-! ### Deadlines -/

/-- The bound of requests stays what it was at the start. -/
theorem Outset.requestBound_run (o : Outset) (events : List Event) :
    (o.run events).connection.requestBound = o.requestBound := by
  obtain ⟨operations, heq⟩ := o.engine.exists_operations_run events
  have hconnection : (o.run events).connection =
      ((Connection.opened o.requestBound).run o.past).run operations := heq
  rw [hconnection, Inspector.requestBound_run, Inspector.requestBound_run]
  rfl

/-- Requests and pauses are bounded, and a run is suspended: a step changes nothing, and the run is
not over.  Unless it waits for the acknowledgement of a resume, a timer runs, which is that of
requests or that of pauses; when it ends, the run fails with an error that names the bound, once it
has taken enough steps to give back what it holds.  But if it waits for the acknowledgement, there
is no timer, and neither steps nor time change anything. -/
theorem waits_have_deadlines (o : Outset) (events : List Event)
    (hconnection : o.requestBound = o.settings.requestBound)
    (hrequests : 0 < o.settings.requestTimeoutMs)
    (hpauses : o.settings.pauseTimeoutMs.isSome = true)
    (hsuspended : (o.run events).step = o.run events) (hopen : (o.run events).outcome? = none) :
    let e := o.run events
    (e.point.awaitsAcknowledgement = false → ∃ bound error, e.timer? = some bound ∧
      (bound = o.settings.requestTimeout ∨ o.settings.pauseTimeout = some bound) ∧
      SessionError.timeLimit? error = some bound ∧
      ∀ more, e.waiters.length + e.observers.length < more.count .step →
        (o.run (events ++ .elapse :: more)).outcome? = some (.error error)) ∧
    (e.point.awaitsAcknowledgement = true → e.timer? = none ∧
      ∀ own, (∀ event ∈ own, event = .step ∨ event = .elapse) → o.run (events ++ own) = e) := by
  intro e
  have hbound : e.connection.requestBound = some o.settings.requestTimeout := by
    rw [o.requestBound_run, hconnection, EngineSettings.requestBound, if_pos hrequests]
  obtain ⟨pauseBound, hpauseBound⟩ : ∃ bound, o.settings.pauseTimeout = some bound :=
    Option.isSome_iff_exists.1 (by rw [EngineSettings.pauseTimeout, Option.isSome_map, hpauses])
  have hblocked : e.isBlocked = true := by
    rcases Engine.step_eq_self_iff.1 hsuspended with hblocked | hrest
    · exact hblocked
    · have hover := o.outcome?_of_isAtRest events hrest
      rw [hopen] at hover
      exact Bool.noConfusion hover
  refine ⟨fun hother => ?_, fun hacknowledgement => ?_⟩
  · obtain ⟨bound, htimer, hsource⟩ : ∃ bound, e.timer? = some bound ∧
        (bound = o.settings.requestTimeout ∨ o.settings.pauseTimeout = some bound) := by
      cases hp : e.point with
      | awaitingReply errand call =>
        exact ⟨_, by rw [Engine.timer?, hp]; exact hbound, Or.inl rfl⟩
      | awaitingEvent first next =>
        refine ⟨pauseBound, ?_, Or.inr hpauseBound⟩
        rw [Engine.timer?, hp, ← hpauseBound]
        exact congrArg EngineSettings.pauseTimeout (o.worksFor_run events).settings
      | awaitingResumed => simp [hp, Point.awaitsAcknowledgement] at hother
      | _ => simp [Engine.isBlocked, hp] at hblocked
    obtain ⟨reply, haccounts, -⟩ := o.exists_accounts_run events
    obtain ⟨connection, error, hlimit, helapse⟩ :=
      Engine.elapse_of_timer? ⟨reply, haccounts⟩ (o.asked_run events) hblocked htimer
    refine ⟨bound, error, htimer, hsource, hlimit, fun more hsteps => ?_⟩
    rw [o.run_append, Engine.run_cons, Engine.apply, helapse]
    exact (Engine.run_of_unwinding
      (e := { e with connection, point := .unwinding (.error error) }) rfl hsteps).1
  · have htimer : e.timer? = none := by
      cases hp : e.point <;> simp [hp, Point.awaitsAcknowledgement] at hacknowledgement
      simp only [Engine.timer?, hp]
    refine ⟨htimer, fun own hown => ?_⟩
    rw [o.run_append]
    exact Engine.run_eq_self hsuspended hacknowledgement hown

/-- The sample with a bound for requests and one for pauses. -/
def sampleBounded : Outset :=
  { sample with
    settings := { EngineSettings.default with pauseTimeoutMs := some 200 }
    requestBound := some (.ofMillis 10000) }

/-- The debuggee has halted where it starts, and has answered the request to resume, but has not
resumed. -/
def sampleSilent : List Event :=
  sampleStart ++ [.halt []] ++ steps 7 ++ [.answer 6 none] ++ steps 1

/-- Requests and pauses are bounded, the run is suspended, and no timer runs: as long as no frame
arrives and the connection lasts, nothing changes. -/
theorem acknowledgement_has_no_deadline :
    sampleBounded.requestBound = sampleBounded.settings.requestBound ∧
      0 < sampleBounded.settings.requestTimeoutMs ∧
      sampleBounded.settings.pauseTimeoutMs.isSome = true ∧
      (sampleBounded.run sampleSilent).outcome?.isNone = true ∧
      (sampleBounded.run sampleSilent).timer? = none ∧
      ∀ own, (∀ event ∈ own, event = .step ∨ event = .elapse) →
        sampleBounded.run (sampleSilent ++ own) = sampleBounded.run sampleSilent := by
  have hfacts : (sampleBounded.requestBound = sampleBounded.settings.requestBound ∧
      0 < sampleBounded.settings.requestTimeoutMs ∧
      sampleBounded.settings.pauseTimeoutMs.isSome = true ∧
      (sampleBounded.run sampleSilent).outcome?.isNone = true ∧
      (sampleBounded.run sampleSilent).timer? = none) ∧
      (sampleBounded.run sampleSilent).isBlocked = true ∧
      (sampleBounded.run sampleSilent).point.awaitsAcknowledgement = true := by
    decide +kernel
  obtain ⟨⟨hconnection, hrequests, hpauses, hopen, htimer⟩, hblocked, hwait⟩ := hfacts
  refine ⟨hconnection, hrequests, hpauses, hopen, htimer, fun own hown => ?_⟩
  rw [Outset.run_append]
  exact Engine.run_eq_self (Engine.step_eq_of_isBlocked hblocked) hwait hown

/-- The first request of the sample is not answered: the run is suspended, and after the time of the
request it fails. -/
theorem waits_have_deadlines_sample :
    let e := sampleBounded.run (steps 6)
    (sampleBounded.requestBound = sampleBounded.settings.requestBound ∧
      0 < sampleBounded.settings.requestTimeoutMs ∧
      sampleBounded.settings.pauseTimeoutMs.isSome = true ∧ e.step = e ∧ e.outcome? = none) ∧
      e.point.awaitsAcknowledgement = false ∧
      ∃ error : SessionError, error.timeLimit? = some (.ofMillis 10000) ∧
        (sampleBounded.run (steps 6 ++ .elapse :: steps 5)).outcome? = some (.error error) := by
  intro e
  have hbounds : sampleBounded.requestBound = sampleBounded.settings.requestBound ∧
      0 < sampleBounded.settings.requestTimeoutMs ∧
      sampleBounded.settings.pauseTimeoutMs.isSome = true := by
    decide +kernel
  have hfacts : e.isBlocked = true ∧ e.outcome?.isNone = true ∧
      e.point.awaitsAcknowledgement = false ∧ e.timer? = some (.ofMillis 10000) ∧
      e.waiters.length + e.observers.length < (steps 5).count .step := by
    decide +kernel
  obtain ⟨hconnection, hrequests, hpauses⟩ := hbounds
  obtain ⟨hblocked, hnone, hother, htimer, hsteps⟩ := hfacts
  have hsuspended : e.step = e := Engine.step_eq_of_isBlocked hblocked
  have hopen : e.outcome? = none := Option.isNone_iff_eq_none.1 hnone
  obtain ⟨hwaits, -⟩ := waits_have_deadlines sampleBounded (steps 6) hconnection hrequests hpauses
    hsuspended hopen
  obtain ⟨bound, error, htimer', -, hlimit, hfails⟩ := hwaits hother
  obtain rfl : bound = .ofMillis 10000 := Option.some.inj (htimer'.symm.trans htimer)
  exact ⟨⟨hconnection, hrequests, hpauses, hsuspended, hopen⟩, hother, error, hlimit,
    hfails (steps 5) hsteps⟩

end Stepping

end ValueTrace
