import ValueTrace.Proofs.Stepping.Runs

/-!
# Engine and session in lockstep

At every point of a run the state of the engine is one that belongs to the point, and the phase of
the session is the one that belongs to the state (`Outset.lockstep_run`).  So the engine may enter
every state that it is about to enter (`Lockstep.allows`), and no run fails over a state.

## Main definitions

* `Point.admits` : the states that belong to a point.
* `EngineState.phaseAfter` : the phase that belongs to a state.
* `Lockstep` : point, state and phase belong together.
-/

namespace ValueTrace

/-- The phase of the session in a state of the engine, after a number of evaluated pauses. -/
def EngineState.phaseAfter (state : EngineState) (pauses : Nat) : Phase :=
  match state with
  | .idle => .idle
  | .configuring => .configuring
  | .waitingForInitialPause => .configuring
  | .evaluating => .tracing
  | .resuming => if pauses = 0 then .configuring else .tracing
  | .waitingForPause => if pauses = 0 then .configuring else .tracing
  | .terminated => .terminated
  | .failed => .failed

namespace Stepping

/-- Whether a request may be made in a state, after a number of evaluated pauses. -/
def Errand.admits (errand : Errand) (state : EngineState) (pauses : Nat) : Prop :=
  match errand with
  | .release _ => state = .waitingForInitialPause ∧ pauses = 0
  | .evaluate .. => state = .evaluating
  | .resume .. => state = .resuming
  | _ => state = .configuring ∧ pauses = 0

/-- Whether a run may be at a point in a state, after a number of evaluated pauses. -/
def Point.admits (point : Point) (state : EngineState) (pauses : Nat) : Prop :=
  match point with
  | .unstarted | .observing _ => state = .idle ∧ pauses = 0
  | .expectingContext | .readingContext _ | .releasingContext _ | .configured =>
    state = .configuring ∧ pauses = 0
  | .asking errand | .awaitingReply errand _ => errand.admits state pauses
  | .expectingFirstPause | .expectingFirstEnd _ | .awaitingEvent true _ | .halted true _ =>
    state = .waitingForInitialPause ∧ pauses = 0
  | .awaitingEvent false _ | .releasingEvent .. | .halted false _ => state = .waitingForPause
  | .discovering _ => state = .evaluating
  | .resuming =>
    (state = .waitingForInitialPause ∧ pauses = 0) ∨ (state = .evaluating ∧ pauses ≠ 0)
  | .expectingResumed | .expectingPause _ | .expectingEnd .. | .awaitingResumed .. |
    .releasingResumed .. | .resumed _ => state = .resuming
  | .unwinding (.ok _) | .finished (.ok _) => state = .terminated
  | .unwinding (.error _) => state.isTerminal = false
  | .finished (.error _) => state = .failed
  | .abandoned => True

/-- Whether the outcome of the run is certain at a point. -/
def Point.isOver : Point → Bool
  | .unwinding _ | .finished _ | .abandoned => true
  | _ => false

/-- Trouble comes only while the outcome is open. -/
theorem Trouble.isOver_eq_false {e : Engine} {connection : Inspector.Connection}
    {error : SessionError} (h : Trouble e connection error) : e.point.isOver = false := by
  cases h with
  | configuration ha => rw [ha.point]; rfl
  | breakpoint ha => rw [ha.point]; rfl
  | resume ha => rw [ha.point]; rfl
  | evaluation ha => rw [ha.point]; rfl
  | unacknowledged hp => rw [hp]; rfl
  | happening hp => rw [hp]; rfl
  | pauseTimeout hp => rw [hp]; rfl
  | frameless hp => rw [hp]; rfl

/-- Point, state and phase belong together. -/
structure Lockstep (e : Engine) : Prop where
  point : e.point.admits e.state e.pauses
  phase : e.session.phase = e.state.phaseAfter e.pauses

namespace Lockstep

variable {e : Engine}

/-- A request is followed by a point in the same state. -/
theorem admits_next {errand : Errand} {point : Point} {state : EngineState} {pauses : Nat}
    (h : errand.admits state pauses) (hnext : errand.next? = some point) :
    point.admits state pauses := by
  cases errand <;> simp only [Errand.next?, Option.some.injEq, reduceCtorEq] at hnext
  all_goals
    subst hnext
    exact h

/-- A point at which the outcome is open has a state that is not final. -/
theorem isTerminal_eq_false {point : Point} {state : EngineState} {pauses : Nat}
    (h : point.admits state pauses) (hopen : point.isOver = false) : state.isTerminal = false := by
  cases point with
  | asking errand => cases errand <;> simp_all [Point.admits, Errand.admits, EngineState.isTerminal]
  | awaitingReply errand =>
    cases errand <;> simp_all [Point.admits, Errand.admits, EngineState.isTerminal]
  | awaitingEvent first => cases first <;> simp_all [Point.admits, EngineState.isTerminal]
  | halted first => cases first <;> simp_all [Point.admits, EngineState.isTerminal]
  | resuming => rcases h with ⟨rfl, -⟩ | ⟨rfl, -⟩ <;> rfl
  | unwinding => exact Bool.noConfusion hopen
  | finished => exact Bool.noConfusion hopen
  | abandoned => exact Bool.noConfusion hopen
  | _ => simp_all [Point.admits, EngineState.isTerminal]

/-- In a state that is not final the session is not over. -/
theorem isTerminal_phase (h : Lockstep e) (hopen : e.state.isTerminal = false) :
    e.session.phase.isTerminal = false := by
  rw [h.phase]
  cases hs : e.state <;> simp_all [EngineState.phaseAfter, EngineState.isTerminal] <;>
    first
    | rfl
    | (split <;> rfl)

/-- The engine and the session may enter every state that is about to be entered. -/
theorem allows (h : Lockstep e) {next : EngineState} {point : Point} (hentry : Entry e next point) :
    e.allows next = true := by
  obtain ⟨hstate, hphase⟩ := h
  cases hentry with
  | configuring hp =>
    rw [hp] at hstate
    simp [Engine.allows, hphase, hstate.1, EngineState.phaseAfter, EngineState.canTransitionTo,
      EngineState.phase?, Phase.canAdvanceTo, Phase.isTerminal, Phase.rank]
  | waitingForInitialPause hp =>
    rw [hp] at hstate
    simp [Engine.allows, hstate.1, EngineState.canTransitionTo, EngineState.phase?]
  | @evaluating first event pause hp hpause hskip =>
    rw [hp] at hstate
    cases first with
    | true =>
      simp [Engine.allows, hphase, hstate.1, EngineState.phaseAfter, EngineState.canTransitionTo,
        EngineState.phase?, Phase.canAdvanceTo, Phase.isTerminal, Phase.rank]
    | false =>
      have hwaiting : e.state = .waitingForPause := hstate
      rw [hwaiting, EngineState.phaseAfter] at hphase
      split at hphase <;> simp [Engine.allows, hphase, hwaiting, EngineState.canTransitionTo,
        EngineState.phase?, Phase.canAdvanceTo, Phase.isTerminal, Phase.rank]
  | resuming hp =>
    rw [hp] at hstate
    rcases hstate with ⟨hs, -⟩ | ⟨hs, -⟩ <;>
      simp [Engine.allows, hs, EngineState.canTransitionTo, EngineState.phase?]
  | waitingForPause hp =>
    rw [hp] at hstate
    have hresuming : e.state = .resuming := hstate
    simp [Engine.allows, hresuming, EngineState.canTransitionTo, EngineState.phase?]
  | @terminated first next hp hhappening =>
    rw [hp] at hstate
    cases first with
    | true =>
      simp [Engine.allows, hphase, hstate.1, EngineState.phaseAfter, EngineState.canTransitionTo,
        EngineState.phase?, Phase.canAdvanceTo, Phase.isTerminal, Phase.rank]
    | false =>
      have hwaiting : e.state = .waitingForPause := hstate
      rw [hwaiting, EngineState.phaseAfter] at hphase
      split at hphase <;> simp [Engine.allows, hphase, hwaiting, EngineState.canTransitionTo,
        EngineState.phase?, Phase.canAdvanceTo, Phase.isTerminal, Phase.rank]

/-- To enter a state keeps the lockstep. -/
theorem enter (h : Lockstep e) {next : EngineState} {point : Point} (hentry : Entry e next point) :
    Lockstep { e with state := next, session := enterPhase e.session next, point } := by
  obtain ⟨hstate, hphase⟩ := h
  cases hentry with
  | configuring hp =>
    rw [hp] at hstate
    exact ⟨⟨rfl, hstate.2⟩, rfl⟩
  | waitingForInitialPause hp =>
    rw [hp] at hstate
    exact ⟨⟨rfl, hstate.2⟩, by rw [hstate.1] at hphase; exact hphase⟩
  | evaluating hp hpause hskip => exact ⟨rfl, rfl⟩
  | resuming hp =>
    rw [hp] at hstate
    refine ⟨rfl, ?_⟩
    rcases hstate with ⟨hs, hn⟩ | ⟨hs, hn⟩
    · rw [hs] at hphase
      exact hphase.trans (if_pos hn).symm
    · rw [hs] at hphase
      exact hphase.trans (if_neg hn).symm
  | waitingForPause hp =>
    rw [hp] at hstate
    have hresuming : e.state = .resuming := hstate
    exact ⟨rfl, by rw [hresuming] at hphase; exact hphase⟩
  | terminated hp hhappening => exact ⟨rfl, rfl⟩

/-- To go on with the expressions at a pause keeps the lockstep. -/
theorem evaluateNext (hstate : e.state = .evaluating) (hphase : e.session.phase = .tracing)
    (pause : Pause) (expressions : List String) : Lockstep (e.evaluateNext pause expressions) := by
  cases expressions with
  | nil =>
    refine ⟨Or.inr ⟨hstate, Nat.succ_ne_zero _⟩, ?_⟩
    rw [Engine.evaluateNext, hphase, hstate]
    rfl
  | cons expression rest =>
    refine ⟨hstate, ?_⟩
    rw [Engine.evaluateNext, Engine.goTo, hphase, hstate]
    rfl

/-- Every move keeps the lockstep. -/
theorem move (h : Lockstep e) {e' : Engine} (hmove : Move e e') : Lockstep e' := by
  have hstate := h.point
  have hphase := h.phase
  cases hmove with
  | observe hp =>
    rw [hp] at hstate
    exact ⟨hstate, hphase⟩
  | enter hentry _ => exact h.enter hentry
  | refuse hentry hrefused => exact absurd (h.allows hentry) (Bool.eq_false_iff.1 hrefused)
  | expect hw =>
    cases hw with
    | context hp | firstPause hp | firstEnd hp | resumed hp | pause hp | nextEnd hp =>
      rw [hp] at hstate
      exact ⟨hstate, hphase⟩
  | giveBack hr =>
    cases hr with
    | context hp | event hp | resumed hp =>
      rw [hp] at hstate
      exact ⟨hstate, hphase⟩
  | ask hp =>
    rw [hp] at hstate
    exact ⟨hstate, hphase⟩
  | proceed ha hnext =>
    rw [ha.point] at hstate
    exact ⟨admits_next hstate hnext, hphase⟩
  | install ha _ =>
    rw [ha.point] at hstate
    exact ⟨hstate, hphase⟩
  | record ha _ =>
    rw [ha.point] at hstate
    have hevaluating : e.state = .evaluating := hstate
    rw [hevaluating] at hphase
    refine evaluateNext ?_ ?_ _ _
    · exact hevaluating
    · exact hphase
  | note hp _ =>
    rw [hp] at hstate
    refine ⟨?_, ?_⟩
    · obtain ⟨session, heq⟩ := e.noteContext_eq _
      rw [heq]
      exact hstate
    · rw [Engine.goTo]
      unfold Engine.noteContext
      split
      · exact hphase
      · split <;> exact hphase
  | noteNothing hp _ =>
    rw [hp] at hstate
    exact ⟨hstate, hphase⟩
  | @pause first next event hp _ =>
    rw [hp] at hstate
    cases first <;> exact ⟨hstate, hphase⟩
  | halt hp =>
    rw [hp] at hstate
    exact ⟨hstate, hphase⟩
  | @skip first event pause hp _ hskip =>
    rw [hp] at hstate
    cases first with
    | true => exact ⟨Or.inl hstate, hphase⟩
    | false => exact Bool.noConfusion hskip
  | @discover pause hp =>
    rw [hp] at hstate
    have hevaluating : e.state = .evaluating := hstate
    rw [hevaluating] at hphase
    obtain ⟨session, heq⟩ := e.discover_eq pause
    refine evaluateNext (by rw [heq]; exact hevaluating) ?_ _ _
    rw [Engine.discover]
    split <;> exact hphase
  | acknowledge hp _ =>
    rw [hp] at hstate
    exact ⟨hstate, hphase⟩
  | fail ht => exact ⟨isTerminal_eq_false hstate ht.isOver_eq_false, hphase⟩
  | releaseWaiter hp _ => exact ⟨hstate, hphase⟩
  | releaseObserver hp _ _ => exact ⟨hstate, hphase⟩
  | @conclude outcome hp _ _ =>
    rw [hp] at hstate
    cases outcome with
    | ok pauses => exact ⟨hstate, hphase⟩
    | error error =>
      have hopen : e.state.isTerminal = false := hstate
      simp only [Engine.conclude, hopen, Session.fail, h.isTerminal_phase hopen]
      exact ⟨rfl, rfl⟩

end Lockstep

/-- Point, state and phase belong together throughout a run. -/
theorem Outset.lockstep_run (o : Outset) (events : List Event) : Lockstep (o.run events) :=
  Engine.run_induction events ⟨⟨rfl, rfl⟩, rfl⟩ (fun _ _ h => ⟨h.point, h.phase⟩)
    (fun _ h => ⟨h.point, h.phase⟩) fun _ _ h hmove => h.move hmove

end Stepping

end ValueTrace
