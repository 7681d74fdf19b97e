import ValueTrace.Proofs.Stepping.Runs

/-!
# The end of a run

Once the outcome of a run is certain, nothing can change it any more.  Every step gives back one
waiter or one observer, and when none is left the next step ends the run; frames, time and the end
of the connection only touch the connection.  So the run ends with just that outcome after one step
more than there are waiters and observers (`Engine.run_of_unwinding`), and in no other way
(`Move.eq_conclude`).

## Main definitions

* `Leaving` : how far an engine has come that gives back what it holds.

## Main results

* `Engine.run_of_unwinding` : the end of a run whose outcome is certain.
-/

namespace ValueTrace.Stepping

open Inspector

variable {e e' start : Engine} {outcome : Except SessionError Nat}

/-- How far an engine has come whose outcome is certain, and how many steps it still has to take:
until the last one, state and session are those with which it began. -/
inductive Leaving (start : Engine) (outcome : Except SessionError Nat) (e : Engine) : Nat → Prop
  | unwinding (hp : e.point = .unwinding outcome) (hstate : e.state = start.state)
      (hsession : e.session = start.session) :
      Leaving start outcome e (e.waiters.length + e.observers.length + 1)
  | finished (hp : e.point = .finished outcome) (hstate : e.state = (start.conclude outcome).state)
      (hsession : e.session = (start.conclude outcome).session) : Leaving start outcome e 0

namespace Leaving

variable {left : Nat}

/-- What the other side does to the connection changes nothing about it. -/
theorem of_connection (h : Leaving start outcome e left) (connection : Connection) :
    Leaving start outcome { e with connection } left := by
  cases h with
  | unwinding hp hstate hsession => exact .unwinding hp hstate hsession
  | finished hp hstate hsession => exact .finished hp hstate hsession

/-- Time changes nothing about it either. -/
theorem elapse_eq (h : Leaving start outcome e left) : e.elapse = e := by
  cases h with
  | unwinding hp | finished hp => simp only [Engine.elapse, hp]

/-- Every step brings the engine nearer to the end. -/
theorem step (h : Leaving start outcome e left) : Leaving start outcome e.step (left - 1) := by
  cases h with
  | finished hp hstate hsession =>
    have hsame : e.step = e := by simp only [Engine.step, hp]
    rw [hsame]
    exact .finished hp hstate hsession
  | unwinding hp hstate hsession =>
    have hstep : e.step = e.unwind outcome := by simp only [Engine.step, hp]
    rw [hstep, Nat.add_sub_cancel, Engine.unwind]
    split
    · rename_i id waiters hwaiters
      rw [hwaiters, List.length_cons, Nat.add_right_comm]
      exact .unwinding hp hstate hsession
    · rename_i id observers hwaiters hobservers
      have hleaving : Leaving start outcome
          { e with connection := e.connection.release id, observers } _ :=
        .unwinding hp hstate hsession
      rw [hwaiters, List.length_nil, Nat.zero_add] at hleaving
      rw [hwaiters, hobservers, List.length_nil, List.length_cons, Nat.zero_add]
      exact hleaving
    · rename_i hwaiters hobservers
      rw [hwaiters, hobservers]
      cases outcome with
      | ok pauses => exact .finished rfl hstate hsession
      | error error =>
        refine .finished rfl ?_ ?_
        · simp only [Engine.conclude, hstate]
        · simp only [Engine.conclude, hsession]

/-- Whatever happens, the steps of the engine and nothing else bring it nearer to the end. -/
theorem run (h : Leaving start outcome e left) (events : List Event) :
    Leaving start outcome (e.run events) (left - events.count .step) := by
  induction events generalizing e left with
  | nil => exact h
  | cons event rest ih =>
    rw [Engine.run_cons]
    cases event with
    | step =>
      rw [List.count_cons_self, Nat.add_comm, ← Nat.sub_sub]
      exact ih h.step
    | frame text =>
      rw [List.count_cons_of_ne (by simp)]
      exact ih (h.of_connection (e.connection.receive text))
    | hangUp =>
      rw [List.count_cons_of_ne (by simp)]
      exact ih (h.of_connection e.connection.hangUp)
    | elapse =>
      rw [List.count_cons_of_ne (by simp), Engine.apply, h.elapse_eq]
      exact ih h

end Leaving

/-- Once the outcome is certain, a run with more steps than there are waiters and observers has it,
whatever else happens, with the state and the session of its conclusion. -/
theorem Engine.run_of_unwinding (hp : e.point = .unwinding outcome) {events : List Event}
    (hsteps : e.waiters.length + e.observers.length < events.count .step) :
    (e.run events).outcome? = some outcome ∧
      (e.run events).state = (e.conclude outcome).state ∧
      (e.run events).session = (e.conclude outcome).session := by
  have hleaving := (Leaving.unwinding hp rfl rfl).run events
  rw [Nat.sub_eq_zero_of_le hsteps] at hleaving
  generalize hleft : (0 : Nat) = left at hleaving
  cases hleaving with
  | unwinding => exact absurd hleft.symm (Nat.succ_ne_zero _)
  | finished hfinished hstate hsession =>
    refine ⟨?_, hstate, hsession⟩
    rw [outcome?, hfinished]

/-- A run ends only when its outcome is certain and nothing is left to give back. -/
theorem Move.eq_conclude (h : Move e e') (hfinished : e'.point = .finished outcome) :
    e' = e.conclude outcome ∧ e.point = .unwinding outcome ∧ e.waiters = [] ∧
      e.observers = [] := by
  cases h with
  | enter hentry _ => cases hentry <;> exact Point.noConfusion hfinished
  | expect hw => cases hw <;> exact Point.noConfusion hfinished
  | giveBack hr => cases hr <;> exact Point.noConfusion hfinished
  | @proceed errand _ _ _ _ _ hnext =>
    cases errand <;> simp only [Errand.next?, Option.some.injEq, reduceCtorEq] at hnext
    all_goals
      subst hnext
      exact Point.noConfusion hfinished
  | @record _ _ rest => cases rest <;> exact Point.noConfusion hfinished
  | @pause first => cases first <;> exact Point.noConfusion hfinished
  | @discover pause =>
    have hpoint (expressions : List String) :
        ((e.discover pause).evaluateNext pause expressions).point ≠ .finished outcome := by
      cases expressions <;> exact Point.noConfusion
    exact absurd hfinished (hpoint _)
  | releaseWaiter hp _ => exact Point.noConfusion (hp.symm.trans hfinished)
  | releaseObserver hp _ _ => exact Point.noConfusion (hp.symm.trans hfinished)
  | @conclude outcome' hp hwaiters hobservers =>
    obtain rfl : outcome' = outcome := by
      cases outcome' <;> exact Point.finished.inj hfinished
    exact ⟨rfl, hp, hwaiters, hobservers⟩
  | _ => exact Point.noConfusion hfinished

end ValueTrace.Stepping
