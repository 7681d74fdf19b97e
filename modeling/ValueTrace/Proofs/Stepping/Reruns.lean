import ValueTrace.Proofs.Stepping.Lockstep
import ValueTrace.Proofs.Stepping.Trace
import ValueTrace.Proofs.Stepping.Unwinding

/-!
# Failures over states, and further calls

Since engine and session move in lockstep, no run fails over a state or a phase
(`Outset.concernsStates_eq_false`).  Only a further call on an engine whose run has ended with the
debuggee does: it begins to observe, is refused the first state, gives the observers back and fails.
It leaves engine and session as they were, so that the next call fares the same
(`states_and_phases_in_lockstep`).

## Main definitions

* `SessionError.concernsStates` : the failures over a state or a phase.
* `Spent` : an engine whose run has ended with the debuggee.
* `Refusing` : how far a further call has come.
* `Recalled` : what further calls make of an engine.

## Main results

* `states_and_phases_in_lockstep` : state and phase throughout a run and all further calls.
-/

namespace ValueTrace

/-- Whether a failure is one over a state or a phase that must not be entered. -/
def SessionError.concernsStates : SessionError → Bool
  | .invalidTransition .. | .invalidPhase .. => true
  | _ => false

namespace Stepping

open Inspector

variable {e e' : Engine}

/-! ### No run fails over a state -/

/-- A frame that reports no pause gives no failure over a state. -/
theorem concernsStates_of_pausedEvent {m : Inbound} {error : SessionError}
    (h : pausedEvent m = .error error) : error.concernsStates = false := by
  cases m with
  | response r =>
    obtain rfl := Except.error.inj h
    rfl
  | notification n =>
    rw [pausedEvent] at h
    cases hdecode : n.decode PausedEvent.decoder with
    | ok event =>
      rw [hdecode] at h
      cases h
    | error cause =>
      rw [hdecode] at h
      obtain rfl := Except.error.inj h
      rfl

/-- Neither does a wait for the next event. -/
theorem Engine.concernsStates_of_happening? {next : EventWaiters} {error : SessionError}
    (h : e.happening? next = some (.error error)) : error.concernsStates = false := by
  rw [happening?] at h
  split at h <;> simp only [Option.some.injEq, reduceCtorEq, Except.error.injEq] at h
  · rename_i _ _ m _
    cases hm : pausedEvent m with
    | ok event => simp [hm, Except.map] at h
    | error cause =>
      rw [hm] at h
      obtain rfl := Except.error.inj h
      exact concernsStates_of_pausedEvent hm
  all_goals
    subst h
    rfl

/-- No trouble concerns a state. -/
theorem Trouble.concernsStates_eq_false {connection : Connection} {error : SessionError}
    (h : Trouble e connection error) : error.concernsStates = false := by
  cases h with
  | happening _ hhappening => exact Engine.concernsStates_of_happening? hhappening
  | @frameless _ event _ _ hpause =>
    rw [Pause.ofEvent?] at hpause
    split at hpause
    · exact absurd hpause (by simp)
    · obtain rfl := Except.error.inj hpause
      rfl
  | _ => rfl

/-- The failure with which a run is about to end, or has ended. -/
def Point.fault? : Point → Option SessionError
  | .unwinding (.error error) | .finished (.error error) => some error
  | _ => none

/-- A move that may enter its state fails only because of trouble. -/
theorem Move.fault?_cases (h : Move e e') (hlock : Lockstep e) {error : SessionError}
    (hfault : e'.point.fault? = some error) :
    e.point.fault? = some error ∨ ∃ connection, Trouble e connection error := by
  have hno {point : Point} (hnone : point.fault? = none) (hsome : point.fault? = some error) :
      e.point.fault? = some error ∨ ∃ connection, Trouble e connection error := by
    rw [hnone] at hsome
    exact absurd hsome (by simp)
  cases h with
  | enter hentry _ => exact hno (by cases hentry <;> rfl) hfault
  | refuse hentry hrefused => exact absurd (hlock.allows hentry) (Bool.eq_false_iff.1 hrefused)
  | expect hw => exact hno (by cases hw <;> rfl) hfault
  | giveBack hr => exact hno (by cases hr <;> rfl) hfault
  | @proceed errand _ _ _ _ _ hnext =>
    refine hno ?_ hfault
    cases errand <;> simp only [Errand.next?, Option.some.injEq, reduceCtorEq] at hnext
    all_goals
      subst hnext
      rfl
  | @record pause expression rest => exact hno (by cases rest <;> rfl) hfault
  | @pause first => exact hno (by cases first <;> rfl) hfault
  | @discover pause =>
    refine hno ?_ hfault
    cases (e.discover pause).session.tracked.expressions <;> rfl
  | fail ht =>
    obtain rfl := Option.some.inj hfault
    exact Or.inr ⟨_, ht⟩
  | releaseWaiter => exact Or.inl hfault
  | releaseObserver => exact Or.inl hfault
  | @conclude outcome hp =>
    cases outcome with
    | ok pauses => exact hno rfl hfault
    | error cause => exact Or.inl (by rw [hp]; exact hfault)
  | _ => exact hno rfl hfault

/-- No run fails over a state or a phase. -/
theorem Outset.concernsStates_eq_false (o : Outset) (events : List Event) {error : SessionError}
    (hfault : (o.run events).point.fault? = some error) : error.concernsStates = false := by
  suffices h : Lockstep (o.run events) ∧ ∀ error,
      (o.run events).point.fault? = some error → error.concernsStates = false from
    h.2 error hfault
  refine Engine.run_induction (P := fun e => Lockstep e ∧ ∀ error, e.point.fault? = some error →
    error.concernsStates = false) events ⟨o.lockstep_run [], fun error h => ?_⟩
    (fun e text h => ⟨⟨h.1.point, h.1.phase⟩, h.2⟩) (fun e h => ⟨⟨h.1.point, h.1.phase⟩, h.2⟩) ?_
  · exact absurd h (by simp [Outset.engine, Engine.begin, Point.fault?])
  · intro e e' h hmove
    refine ⟨h.1.move hmove, fun error hfault => ?_⟩
    rcases hmove.fault?_cases h.1 hfault with hold | ⟨connection, htrouble⟩
    · exact h.2 error hold
    · exact htrouble.concernsStates_eq_false

/-! ### A run that is over holds nothing -/

/-- A run that is over has given back all waiters and observers. -/
theorem Outset.of_finished (o : Outset) (events : List Event) :
    ∀ outcome, (o.run events).point = .finished outcome →
      (o.run events).waiters = [] ∧ (o.run events).observers = [] :=
  Engine.run_induction (P := fun e => ∀ outcome, e.point = .finished outcome →
    e.waiters = [] ∧ e.observers = []) events (fun _ h => Point.noConfusion h) (fun _ _ h => h)
    (fun _ h => h) fun _ _ _ hmove outcome hfinished => by
      obtain ⟨rfl, -, hwaiters, hobservers⟩ := hmove.eq_conclude hfinished
      cases outcome <;> exact ⟨hwaiters, hobservers⟩

/-! ### Further calls -/

/-- An engine that has ended with the debuggee and holds nothing. -/
structure Spent (e : Engine) : Prop where
  state : e.state = .terminated
  phase : e.session.phase = .terminated
  waiters : e.waiters = []
  observers : e.observers = []

/-- A run that ends with the debuggee spends its engine. -/
theorem Outset.spent (o : Outset) (events : List Event) {n : Nat}
    (houtcome : (o.run events).outcome? = some (.ok n)) : Spent (o.run events) := by
  have hp := Engine.point_of_outcome? houtcome
  obtain ⟨hpoint, hphase⟩ := o.lockstep_run events
  rw [hp] at hpoint
  have hstate : (o.run events).state = .terminated := hpoint
  obtain ⟨hwaiters, hobservers⟩ := o.of_finished events _ hp
  rw [hstate] at hphase
  exact ⟨hstate, hphase, hwaiters, hobservers⟩

/-- The failure of a further call. -/
def refusal : SessionError := .invalidTransition .terminated .configuring

/-- Where a further call is, and how many steps it still has to take: every observer is given back
in the end. -/
inductive RefusalAt (e : Engine) : Nat → Prop
  | observing {methods} (hp : e.point = .observing methods) :
      RefusalAt e (2 * methods.length + e.observers.length + 2)
  | unwinding (hp : e.point = .unwinding (.error refusal)) : RefusalAt e (e.observers.length + 1)
  | finished (hp : e.point = .finished (.error refusal)) (hobservers : e.observers = []) :
      RefusalAt e 0

/-- How far a further call of a spent engine has come. -/
structure Refusing (e e' : Engine) (left : Nat) : Prop where
  state : e'.state = e.state
  session : e'.session = e.session
  waiters : e'.waiters = []
  place : RefusalAt e' left

namespace Refusing

variable {left : Nat}

theorem begin (h : Spent e) : Refusing e e.begin 8 := by
  refine ⟨rfl, rfl, h.waiters, ?_⟩
  have hplace : RefusalAt e.begin (2 * [Method.scriptParsed, .consoleApiCalled,
      .exceptionThrown].length + e.begin.observers.length + 2) := .observing rfl
  have hobservers : e.begin.observers = [] := h.observers
  rw [hobservers] at hplace
  exact hplace

/-- What the other side does to the connection changes nothing about it. -/
theorem of_connection (h : Refusing e e' left) (connection : Connection) :
    Refusing e { e' with connection } left := by
  refine ⟨h.state, h.session, h.waiters, ?_⟩
  cases h.place with
  | observing hp => exact .observing hp
  | unwinding hp => exact .unwinding hp
  | finished hp hobservers => exact .finished hp hobservers

/-- Time changes nothing about it either. -/
theorem elapse_eq (h : Refusing e e' left) : e'.elapse = e' := by
  cases h.place with
  | observing hp | unwinding hp | finished hp _ => simp only [Engine.elapse, hp]

/-- A step of a further call brings it nearer to its end. -/
theorem step (hspent : Spent e) (h : Refusing e e' left) : Refusing e e'.step (left - 1) := by
  obtain ⟨hstate, hsession, hwaiters, hplace⟩ := h
  cases hplace with
  | @observing methods hp =>
    cases methods with
    | nil =>
      have hrefused : e'.step = e'.fail refusal := by
        simp [Engine.step, hp, Engine.enter, hstate, hspent.state, refusal,
          EngineState.canTransitionTo]
      have hplace : RefusalAt (e'.fail refusal) (e'.observers.length + 1) := .unwinding rfl
      rw [hrefused]
      exact ⟨hstate, hsession, hwaiters, by simpa using hplace⟩
    | cons method rest =>
      have hobserved : e'.step = { e' with
          connection := (e'.connection.observe method.name).1,
          observers := e'.observers ++ [(e'.connection.observe method.name).2],
          point := .observing rest } := by
        simp only [Engine.step, hp]
      have hplace : RefusalAt e'.step (2 * rest.length + e'.step.observers.length + 2) :=
        .observing (by rw [hobserved])
      have hleft : 2 * rest.length + e'.step.observers.length + 2 =
          2 * (method :: rest).length + e'.observers.length + 2 - 1 := by
        rw [hobserved, List.length_append, List.length_singleton, List.length_cons]
        omega
      rw [hleft] at hplace
      refine ⟨?_, ?_, ?_, hplace⟩ <;> rw [hobserved] <;> assumption
  | unwinding hp =>
    cases hobservers : e'.observers with
    | nil =>
      have hover : e'.step = e'.conclude (.error refusal) := by
        simp only [Engine.step, hp, Engine.unwind, hwaiters, hobservers]
      rw [hover]
      refine ⟨?_, ?_, hwaiters, .finished rfl hobservers⟩
      · simp [Engine.conclude, hstate, hspent.state, EngineState.isTerminal]
      · simp [Engine.conclude, Session.fail, hsession, hspent.phase, Phase.isTerminal]
    | cons id observers =>
      have hreturned : e'.step =
          { e' with connection := e'.connection.release id, observers } := by
        simp only [Engine.step, hp, Engine.unwind, hwaiters, hobservers]
      rw [hreturned]
      exact ⟨hstate, hsession, hwaiters, .unwinding hp⟩
  | finished hp hobservers =>
    have hsame : e'.step = e' := by simp only [Engine.step, hp]
    rw [hsame]
    exact ⟨hstate, hsession, hwaiters, .finished hp hobservers⟩

/-- Whatever happens during a further call, its steps and nothing else bring it nearer to its
end. -/
theorem run (hspent : Spent e) (h : Refusing e e' left) (events : List Event) :
    Refusing e (e'.run events) (left - events.count .step) := by
  induction events generalizing e' left with
  | nil => exact h
  | cons event rest ih =>
    rw [Engine.run_cons]
    cases event with
    | step =>
      rw [List.count_cons_self, Nat.add_comm, ← Nat.sub_sub]
      exact ih (h.step hspent)
    | frame text =>
      rw [List.count_cons_of_ne (by simp)]
      exact ih (h.of_connection (e'.connection.receive text))
    | hangUp =>
      rw [List.count_cons_of_ne (by simp)]
      exact ih (h.of_connection e'.connection.hangUp)
    | elapse =>
      rw [List.count_cons_of_ne (by simp), Engine.apply, h.elapse_eq]
      exact ih h

/-- A further call fails with its last step. -/
theorem outcome? (h : Refusing e e' left) :
    e'.outcome? = if left = 0 then some (.error refusal) else none := by
  cases h.place with
  | observing hp | unwinding hp | finished hp _ => simp [Engine.outcome?, hp]

/-- A further call that is over leaves its engine spent. -/
theorem spent (hspent : Spent e) (h : Refusing e e' left) (hover : e'.outcome?.isSome = true) :
    Spent e' := by
  have hobservers : e'.observers = [] := by
    cases h.place with
    | observing hp | unwinding hp => simp [Engine.outcome?, hp] at hover
    | finished _ hobservers => exact hobservers
  exact ⟨h.state.trans hspent.state, h.session ▸ hspent.phase, h.waiters, hobservers⟩

end Refusing

/-- What a number of further calls, one after the other, make of an engine. -/
inductive Recalled (e : Engine) : Engine → Prop
  | refl : Recalled e e
  | again {e' : Engine} (h : Recalled e e') (events : List Event)
      (hover : (e'.begin.run events).outcome?.isSome = true) : Recalled e (e'.begin.run events)

/-- Further calls leave an engine spent, with the same state and the same session. -/
theorem Recalled.spent (h : Recalled e e') (hspent : Spent e) :
    Spent e' ∧ e'.state = e.state ∧ e'.session = e.session := by
  induction h with
  | refl => exact ⟨hspent, rfl, rfl⟩
  | again _ events hover ih =>
    obtain ⟨hbefore, hstate, hsession⟩ := ih
    have hcall := (Refusing.begin hbefore).run hbefore events
    exact ⟨hcall.spent hbefore hover, hcall.state.trans hstate, hcall.session.trans hsession⟩

/-- At every point of a run the phase of the session is the one that belongs to the state of the
engine and the number of evaluated pauses.  So every state that is about to be entered is entered
together with its phase, and no run fails, or is about to fail, over a state or a phase.  After a
run that has ended with the debuggee, and any number of further calls, one more call fails with its
eighth step, whatever else happens: three observers, the refusal, three observers given back, the
end.  At all times it leaves the state of the engine and the whole session as they were. -/
theorem states_and_phases_in_lockstep (o : Outset) (events : List Event) :
    let e := o.run events
    e.session.phase = e.state.phaseAfter e.pauses ∧
    (∀ next point, Entry e next point → e.enter next point =
      { e with state := next, session := enterPhase e.session next, point }) ∧
    (∀ error, e.point.fault? = some error ∨ e.outcome? = some (.error error) →
      error.concernsStates = false) ∧
    ∀ n, e.outcome? = some (.ok n) → ∀ e', Recalled e e' → ∀ further,
      let again := e'.begin.run further
      again.state = e.state ∧ again.session = e.session ∧
        again.outcome? = if 8 ≤ further.count .step
          then some (.error (.invalidTransition .terminated .configuring)) else none := by
  intro e
  have hlock := o.lockstep_run events
  refine ⟨hlock.phase, fun next point hentry => Engine.enter_of_allows (hlock.allows hentry) point,
    fun error herror => o.concernsStates_eq_false events ?_,
    fun n houtcome e' hrecalled further => ?_⟩
  · rcases herror with hfault | houtcome
    · exact hfault
    · rw [Engine.point_of_outcome? houtcome]
      rfl
  · obtain ⟨hspent, hstate, hsession⟩ := hrecalled.spent (o.spent events houtcome)
    have hcall := (Refusing.begin hspent).run hspent further
    refine ⟨hcall.state.trans hstate, hcall.session.trans hsession, ?_⟩
    have houtcome := hcall.outcome?
    simp only [Nat.sub_eq_zero_iff_le] at houtcome
    exact houtcome

/-- The finished sample is called again, while a frame arrives and the connection ends: it fails
and still has its value. -/
theorem states_and_phases_in_lockstep_sample :
    (sample.run sampleFinished).outcome? = some (.ok 1) ∧
      ((sample.run sampleFinished).begin.run
        (steps 4 ++ [.contextEnd 1, .hangUp] ++ steps 4)).outcome? =
          some (.error (.invalidTransition .terminated .configuring)) ∧
      ((sample.run sampleFinished).begin.run
        (steps 4 ++ [.contextEnd 1, .hangUp] ++ steps 4)).session =
          (sample.run sampleFinished).session := by
  have hfinished := sampleFinished_facts.1
  obtain ⟨-, -, -, hfurther⟩ := states_and_phases_in_lockstep sample sampleFinished
  obtain ⟨-, hsession, houtcome⟩ :=
    hfurther 1 hfinished _ .refl (steps 4 ++ [.contextEnd 1, .hangUp] ++ steps 4)
  exact ⟨hfinished, houtcome.trans (if_pos (by decide)), hsession⟩

end Stepping

end ValueTrace
