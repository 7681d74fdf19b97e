import ValueTrace.Proofs.Scope.Histories
import ValueTrace.Proofs.Stepping.Noise

/-!
# Another value in the histories

The engine writes values into the histories of its session, but never reads one.  So an engine whose
histories differ from those of another at one place goes on in the same way, and its histories still
differ only at this place (`OtherValue.step`, `OtherValue.elapse`).

## Main definitions

* `Engine.retrack` : the engine with other histories.
* `Engine.replyFrom` : the engine goes on with the outcome of its request.
* `OtherValue` : two engines whose histories differ at one place at most.
-/

namespace ValueTrace.Stepping

open Inspector
open Json (Value)

variable {e e' : Engine} {expression : String} {place : Nat}

/-! ### An engine with other histories -/

namespace Engine

/-- The same engine with other histories. -/
def retrack (e : Engine) (tracked : TrackedExpressions) : Engine :=
  { e with session := { e.session with tracked } }

@[simp] theorem retrack_point (e : Engine) (t : TrackedExpressions) :
    (e.retrack t).point = e.point := rfl

@[simp] theorem retrack_connection (e : Engine) (t : TrackedExpressions) :
    (e.retrack t).connection = e.connection := rfl

@[simp] theorem retrack_settings (e : Engine) (t : TrackedExpressions) :
    (e.retrack t).settings = e.settings := rfl

@[simp] theorem retrack_waiters (e : Engine) (t : TrackedExpressions) :
    (e.retrack t).waiters = e.waiters := rfl

@[simp] theorem retrack_observers (e : Engine) (t : TrackedExpressions) :
    (e.retrack t).observers = e.observers := rfl

theorem retrack_happening? (e : Engine) (t : TrackedExpressions) (next : EventWaiters) :
    (e.retrack t).happening? next = e.happening? next := rfl

/-- To enter a state does not depend on the histories, and leaves them as they are. -/
theorem enter_retrack (e : Engine) (t : TrackedExpressions) (next : EngineState) (point : Point) :
    (e.retrack t).enter next point = (e.enter next point).retrack t ∧
      (e.enter next point).session.tracked = e.session.tracked := by
  have hstate : (e.retrack t).state = e.state := rfl
  have hphase : (e.retrack t).session.phase = e.session.phase := rfl
  rw [enter, enter, hstate]
  by_cases hallowed : e.state.canTransitionTo next = true
  · rw [if_pos hallowed, if_pos hallowed]
    cases next.phase? with
    | none => exact ⟨rfl, rfl⟩
    | some phase =>
      simp only [Session.advance, hphase]
      by_cases hadvance : e.session.phase.canAdvanceTo phase = true
      · rw [if_pos hadvance, if_pos hadvance]
        exact ⟨rfl, rfl⟩
      · rw [if_neg hadvance, if_neg hadvance]
        exact ⟨rfl, rfl⟩
  · rw [if_neg hallowed, if_neg hallowed]
    exact ⟨rfl, rfl⟩

/-- The engine goes on with the outcome of its request, if there is one on a connection. -/
def replyFrom (e : Engine) (c : Connection) (errand : Errand) (call : RequestId) : Engine :=
  match c.outcome? call with
  | some outcome => (e.on c).handleReply errand outcome
  | none => e

theorem step_of_awaitingReply {errand : Errand} {call : RequestId}
    (hp : e.point = .awaitingReply errand call) :
    e.step = e.replyFrom (e.connection.readAnswer call) errand call := by
  rw [step, hp]
  rfl

theorem elapse_of_awaitingReply {errand : Errand} {call : RequestId}
    (hp : e.point = .awaitingReply errand call) :
    e.elapse = e.replyFrom (e.connection.expire call) errand call := by
  rw [elapse, hp]
  rfl

end Engine

/-- The second engine is the first one with histories that differ at one place at most. -/
def OtherValue (expression : String) (place : Nat) (e e' : Engine) : Prop :=
  ∃ t, e' = e.retrack t ∧ e.session.tracked.SameExcept expression place t

namespace OtherValue

/-- Engines with the same histories. -/
theorem of_tracked {t : TrackedExpressions} (ht : t = e.session.tracked) (he : e' = e.retrack t) :
    OtherValue expression place e e' :=
  ⟨t, he, ht ▸ .refl _⟩

theorem goTo (h : OtherValue expression place e e') (point : Point) :
    OtherValue expression place (e.goTo point) (e'.goTo point) := by
  obtain ⟨t, rfl, hsame⟩ := h
  exact ⟨t, rfl, hsame⟩

theorem enter (h : OtherValue expression place e e') (next : EngineState) (point : Point) :
    OtherValue expression place (e.enter next point) (e'.enter next point) := by
  obtain ⟨t, rfl, hsame⟩ := h
  obtain ⟨heq, htracked⟩ := e.enter_retrack t next point
  exact ⟨t, heq, by rw [htracked]; exact hsame⟩

theorem evaluateNext (h : OtherValue expression place e e') (pause : Pause)
    (expressions : List String) :
    OtherValue expression place (e.evaluateNext pause expressions)
      (e'.evaluateNext pause expressions) := by
  obtain ⟨t, rfl, hsame⟩ := h
  cases expressions <;> exact ⟨t, rfl, hsame⟩

/-- Discovery replaces the histories, or leaves them as they are. -/
theorem discover (h : OtherValue expression place e e') (pause : Pause) :
    OtherValue expression place (e.discover pause) (e'.discover pause) := by
  obtain ⟨t, rfl, hsame⟩ := h
  have hsession : (e.retrack t).session.isDiscovered = e.session.isDiscovered := rfl
  rw [Engine.discover, Engine.discover, hsession]
  by_cases hdiscovered : e.session.isDiscovered = true
  · rw [if_pos hdiscovered, if_pos hdiscovered]
    exact ⟨t, rfl, hsame⟩
  · rw [if_neg hdiscovered, if_neg hdiscovered]
    exact of_tracked rfl rfl

theorem noteContext (h : OtherValue expression place e e') (m : Inbound) :
    OtherValue expression place (e.noteContext m) (e'.noteContext m) := by
  obtain ⟨t, rfl, hsame⟩ := h
  cases m with
  | response r => exact ⟨t, rfl, hsame⟩
  | notification n =>
    simp only [Engine.noteContext]
    cases n.decode contextCreated <;> exact ⟨t, rfl, hsame⟩

theorem handleHalt (h : OtherValue expression place e e') (first : Bool) (event : PausedEvent) :
    OtherValue expression place (e.handleHalt first event) (e'.handleHalt first event) := by
  rw [Engine.handleHalt, Engine.handleHalt]
  cases Pause.ofEvent? event with
  | error error => exact h.goTo _
  | ok pause =>
    have hskips : e'.skips first pause = e.skips first pause := by
      obtain ⟨t, rfl, -⟩ := h
      rfl
    simp only [hskips]
    by_cases hskip : e.skips first pause = true
    · rw [if_pos hskip, if_pos hskip]
      exact h.goTo _
    · rw [if_neg hskip, if_neg hskip]
      exact h.enter _ _

/-- A value is recorded in both histories. -/
theorem handleReply (h : OtherValue expression place e e') (errand : Errand)
    (outcome : Except TransportError Value) :
    OtherValue expression place (e.handleReply errand outcome) (e'.handleReply errand outcome) := by
  cases errand with
  | setBreakpoint =>
    cases outcome with
    | error cause => exact h.goTo _
    | ok result =>
      obtain ⟨t, rfl, hsame⟩ := h
      simp only [Engine.handleReply]
      cases decodeResult BreakpointResult.decoder Method.setBreakpointByUrl.name result <;>
        exact ⟨t, rfl, hsame⟩
  | evaluate pause other rest =>
    simp only [Engine.handleReply]
    cases evaluationRecord outcome with
    | error cause => exact h.goTo _
    | ok record =>
      obtain ⟨t, rfl, hsame⟩ := h
      exact evaluateNext ⟨(t.record other record).1, rfl, hsame.record other record⟩ pause rest
  | _ => cases outcome <;> exact h.goTo _

theorem handleHappening (h : OtherValue expression place e e') (first : Bool) (next : EventWaiters)
    (happening : Except SessionError Happening) :
    OtherValue expression place (e.handleHappening first next happening)
      (e'.handleHappening first next happening) := by
  have hpauses : e'.pauses = e.pauses := by
    obtain ⟨t, rfl, -⟩ := h
    rfl
  cases happening with
  | error error => exact h.goTo _
  | ok what =>
    cases what with
    | ended =>
      simp only [Engine.handleHappening, hpauses]
      exact h.enter _ _
    | paused event =>
      obtain ⟨t, rfl, hsame⟩ := h
      cases first <;> exact ⟨t, rfl, hsame⟩

theorem replyFrom (h : OtherValue expression place e e') (c : Connection) (errand : Errand)
    (call : RequestId) :
    OtherValue expression place (e.replyFrom c errand call) (e'.replyFrom c errand call) := by
  rw [Engine.replyFrom, Engine.replyFrom]
  cases c.outcome? call with
  | none => exact h
  | some outcome =>
    obtain ⟨t, rfl, hsame⟩ := h
    have hon : OtherValue expression place (e.on c) ((e.retrack t).on c) := ⟨t, rfl, hsame⟩
    exact hon.handleReply errand outcome

/-- A run that fails forgets both histories. -/
theorem conclude (h : OtherValue expression place e e') (outcome : Except SessionError Nat) :
    OtherValue expression place (e.conclude outcome) (e'.conclude outcome) := by
  obtain ⟨t, rfl, hsame⟩ := h
  cases outcome with
  | ok pauses => exact ⟨t, rfl, hsame⟩
  | error error =>
    have hphase : (e.retrack t).session.phase = e.session.phase := rfl
    simp only [Engine.conclude, Session.fail, hphase]
    by_cases hover : e.session.phase.isTerminal = true
    · simp only [if_pos hover]
      exact ⟨t, rfl, hsame⟩
    · simp only [if_neg hover]
      exact of_tracked rfl rfl

/-- A step does the same with both histories. -/
theorem step (h : OtherValue expression place e e') :
    OtherValue expression place e.step e'.step := by
  obtain ⟨t, rfl, hsame⟩ := id h
  cases hp : e.point with
  | observing methods =>
    simp only [Engine.step, Engine.retrack_point, hp]
    cases methods with
    | nil => exact h.enter _ _
    | cons method rest => exact ⟨t, rfl, hsame⟩
  | awaitingReply errand call =>
    rw [Engine.step_of_awaitingReply hp, Engine.step_of_awaitingReply (e := e.retrack t) hp]
    exact h.replyFrom _ errand call
  | readingContext created =>
    simp only [Engine.step, Engine.retrack_point, hp, Engine.retrack_connection]
    cases e.connection.receipt created with
    | frame m => exact (h.noteContext m).goTo _
    | closed | waiting => exact h.goTo _
  | configured | resuming | resumed =>
    simp only [Engine.step, Engine.retrack_point, hp]
    exact h.enter _ _
  | awaitingEvent first next =>
    simp only [Engine.step, Engine.retrack_point, hp, Engine.stepEvent, e.retrack_happening?]
    cases e.happening? next with
    | none => exact h
    | some happening => exact h.handleHappening first next happening
  | releasingEvent ids event =>
    simp only [Engine.step, Engine.retrack_point, hp]
    cases ids <;> exact ⟨t, rfl, hsame⟩
  | halted first event =>
    simp only [Engine.step, Engine.retrack_point, hp]
    exact h.handleHalt first event
  | discovering pause =>
    have hexpressions : ((e.retrack t).discover pause).session.tracked.expressions =
        (e.discover pause).session.tracked.expressions := by
      obtain ⟨t', heq, hsame'⟩ := h.discover pause
      rw [heq]
      exact hsame'.expressions
    simp only [Engine.step, Engine.retrack_point, hp, hexpressions]
    exact (h.discover pause).evaluateNext pause _
  | awaitingResumed resumed next =>
    simp only [Engine.step, Engine.retrack_point, hp, Engine.stepResumed,
      Engine.retrack_connection]
    cases e.connection.receipt resumed with
    | frame m => exact h.goTo _
    | closed => exact h.goTo _
    | waiting => exact h
  | unwinding outcome =>
    simp only [Engine.step, Engine.retrack_point, hp, Engine.unwind, Engine.retrack_waiters,
      Engine.retrack_observers]
    split
    · exact ⟨t, rfl, hsame⟩
    · exact ⟨t, rfl, hsame⟩
    · exact h.conclude outcome
  | _ =>
    simp only [Engine.step, Engine.retrack_point, hp]
    exact ⟨t, rfl, hsame⟩

/-- The end of a wait's time does the same with both histories. -/
theorem elapse (h : OtherValue expression place e e') :
    OtherValue expression place e.elapse e'.elapse := by
  obtain ⟨t, rfl, hsame⟩ := id h
  cases hp : e.point with
  | awaitingReply errand call =>
    rw [Engine.elapse_of_awaitingReply hp, Engine.elapse_of_awaitingReply (e := e.retrack t) hp]
    exact h.replyFrom _ errand call
  | awaitingEvent first next =>
    simp only [Engine.elapse, Engine.retrack_point, hp, Engine.retrack_settings,
      e.retrack_happening?]
    cases e.settings.pauseTimeout with
    | none => exact h
    | some bound =>
      cases e.happening? next with
      | none => exact h.goTo _
      | some happening => exact h.handleHappening first next happening
  | _ =>
    simp only [Engine.elapse, Engine.retrack_point, hp]
    exact h

end OtherValue

end ValueTrace.Stepping
