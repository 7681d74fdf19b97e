import ValueTrace.Proofs.Stepping.Errands

/-!
# Where the pauses come from

The engine reads a pause when its waiter for pauses holds one.  The waiter got it from a frame, and
no other waiter gets the same frame again, because it begins to wait later.  So the pauses that a
run has read are among those that frames have reported, in the same order
(`Outset.reported_run`).

## Main definitions

* `reported` : the pauses that frames report.
* `Reported` : the pauses that were read have been reported.
-/

namespace ValueTrace.Stepping

open Inspector

variable {e e' : Engine}

/-- The pauses that frames report. -/
def reported (ms : List Inbound) : List (Except SessionError PausedEvent) :=
  (ms.filter (methodIs Method.paused.name)).map pausedEvent

theorem reported_concat (ms : List Inbound) {m : Inbound}
    (hm : methodIs Method.paused.name m = true) :
    reported (ms ++ [m]) = reported ms ++ [pausedEvent m] := by
  rw [reported, List.filter_append, List.map_append, reported, List.filter_singleton, hm]
  rfl

theorem reported_sublist {ms ms' : List Inbound} (h : ms.Sublist ms') :
    (reported ms).Sublist (reported ms') :=
  (h.filter _).map _

/-- The pauses that were read, and after them the one that a waiter holds, are among those that
frames have reported, in the same order. -/
structure Reported (e : Engine) (ms : List Inbound) : Prop where
  read : (e.halts.map .ok).Sublist (reported ms)
  held : ∀ w ∈ e.held, ∀ m, e.connection.receipt w.1 = .frame m →
    methodIs Method.paused.name m = true →
    (e.halts.map Except.ok ++ [pausedEvent m]).Sublist (reported ms)

/-- A pause that has happened is the one in the frame that the waiter for it holds. -/
theorem Engine.receipt_of_paused {next : EventWaiters} {event : PausedEvent}
    (h : e.happening? next = some (.ok (.paused event))) :
    ∃ m, e.connection.receipt next.paused = .frame m ∧ pausedEvent m = .ok event := by
  rw [happening?] at h
  split at h <;> simp only [Option.some.injEq, reduceCtorEq, Except.ok.injEq] at h
  rename_i m hreceipt
  refine ⟨m, hreceipt, ?_⟩
  cases hm : pausedEvent m with
  | error error => simp [hm, Except.map] at h
  | ok found =>
    rw [hm] at h
    simpa [Except.map] using h

/-- A move reads no pause, or the one that has happened, and then no waiter is left. -/
theorem Move.halts_cases (h : Move e e') :
    e'.halts = e.halts ∨ ∃ first next event, e.point = .awaitingEvent first next ∧
      e.happening? next = some (.ok (.paused event)) ∧ e'.halts = e.halts ++ [event] ∧
      e'.held = [] := by
  cases h with
  | @pause first next event hp hhappening =>
    refine Or.inr ⟨first, next, event, hp, hhappening, rfl, ?_⟩
    cases first <;> rfl
  | record =>
    obtain ⟨pauses, point, heq⟩ := Engine.evaluateNext_eq _ _ _
    rw [heq]
    exact Or.inl rfl
  | note =>
    obtain ⟨session, heq⟩ := e.noteContext_eq _
    rw [heq]
    exact Or.inl rfl
  | @discover pause hp =>
    obtain ⟨pauses, point, heq⟩ := Engine.evaluateNext_eq (e.discover pause) pause
      (e.discover pause).session.tracked.expressions
    obtain ⟨session, hdiscover⟩ := e.discover_eq pause
    rw [heq, hdiscover]
    exact Or.inl rfl
  | @conclude outcome => cases outcome <;> exact Or.inl rfl
  | _ => exact Or.inl rfl

namespace Reported

variable {ms : List Inbound}

theorem mono (h : Reported e ms) {ms' : List Inbound} (hms : ms.Sublist ms') : Reported e ms' :=
  ⟨h.read.trans (reported_sublist hms),
    fun w hw m hm hpaused => (h.held w hw m hm hpaused).trans (reported_sublist hms)⟩

theorem move (h : Reported e ms) (hwaiting : Waiting e) (hmove : Move e e') : Reported e' ms := by
  rcases hmove.halts_cases with hsame | ⟨first, next, event, hp, hhappening, hhalts, hheld⟩
  · refine ⟨by rw [hsame]; exact h.read, fun w hw m hm hpaused => ?_⟩
    obtain ⟨hbefore, hreceipt⟩ := hwaiting.receipt_of_move hmove hw hm
    rw [hsame]
    exact h.held w hbefore m hreceipt hpaused
  · obtain ⟨m, hm, hevent⟩ := Engine.receipt_of_paused hhappening
    have hmem : (next.paused, methodIs Method.paused.name) ∈ e.held := by
      rw [Engine.held, hp]
      exact List.mem_cons_self
    refine ⟨?_, by simp [hheld]⟩
    rw [hhalts, List.map_append, List.map_singleton, ← hevent]
    exact h.held _ hmem m hm (hwaiting.accepted _ hmem m hm)

/-- A frame that arrives before the connection ends may be held from then on. -/
theorem frame {events : List Event} (h : Reported e (heard events)) (hwaiting : Waiting e)
    (hopen : e.connection.isClosed = false → Event.hangUp ∉ events) (text : String) :
    Reported { e with connection := e.connection.receive text }
      (heard (events ++ [.frame text])) := by
  refine ⟨h.read.trans (reported_sublist (heard_sublist events _)), fun w hw m hm hpaused => ?_⟩
  rcases hwaiting.origin_frame hw hm with hold | ⟨hlive, ht⟩
  · exact (h.mono (heard_sublist events _)).held w hw m hold hpaused
  · rw [heard_concat (hopen hlive) ht, reported_concat _ hpaused]
    exact h.read.append (List.Sublist.refl _)

end Reported

/-- As long as the connection lasts, no event has ended it. -/
theorem Outset.hangUp_not_mem (o : Outset) (events : List Event)
    (hopen : (o.run events).connection.isClosed = false) : Event.hangUp ∉ events := by
  intro hmem
  obtain ⟨before, after, rfl⟩ := List.append_of_mem hmem
  rw [o.run_append, Engine.run_cons] at hopen
  have hlive : (o.run before).connection.hangUp.registry.closed = false :=
    Engine.isClosed_of_run after hopen
  simp only [Connection.hangUp, Registry.close] at hlive
  split at hlive
  · rename_i hclosed
    exact absurd (hclosed.symm.trans hlive) (by simp)
  · exact Bool.noConfusion hlive

/-- The pauses that a run has read were reported by frames that arrived before the connection ended,
in the same order. -/
theorem Outset.reported_run (o : Outset) (events : List Event) :
    Reported (o.run events) (heard events) := by
  induction events using List.reverseRecOn with
  | nil => exact ⟨List.Sublist.refl _, fun w hw => absurd hw List.not_mem_nil⟩
  | append_singleton events event ih =>
    have hwaiting := o.waiting_run events
    have hown {e : Engine} (hsame : e = o.run events ∨ Move (o.run events) e) :
        Reported e (heard (events ++ [event])) := by
      refine Reported.mono ?_ (heard_sublist events event)
      rcases hsame with rfl | hmove
      · exact ih
      · exact ih.move hwaiting hmove
    rw [o.run_concat]
    cases event with
    | step => exact hown (o.run events).step_cases
    | elapse => exact hown (o.run events).elapse_cases
    | frame text => exact ih.frame hwaiting (o.hangUp_not_mem events) text
    | hangUp =>
      have hkept : Reported ((o.run events).apply .hangUp) (heard events) :=
        ⟨ih.read, fun w hw m hm => ih.held w hw m (hwaiting.origin_hangUp hw hm)⟩
      exact hkept.mono (heard_sublist events _)

end ValueTrace.Stepping
