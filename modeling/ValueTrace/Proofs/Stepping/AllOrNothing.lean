import Mathlib.Data.List.Flatten
import ValueTrace.Proofs.Stepping.Reruns
import ValueTrace.Proofs.Stepping.Wire
import ValueTrace.Session.Result

/-!
# All or nothing

A run that gets into trouble fails with just that error, and a run that has failed has forgotten
everything: engine and session have failed, there are no candidates and no histories, and the result
is empty however much had been recorded.  A run that ends with the debuggee has lost nothing: what
was recorded at any moment of the run is still there at its end (`all_or_nothing`).

## Main definitions

* `Session.Retains` : a later session still has what an earlier one has recorded.

## Main results

* `Trouble.exists_event` : trouble makes the outcome certain.
* `Outset.exists_trouble` : every failure comes from trouble.
* `Move.retains` : a move keeps what was recorded, unless the run fails.
* `all_or_nothing` : what is left of a run that is over.
-/

namespace ValueTrace

/-! ### What a session keeps and what it forgets -/

/-- A later session still has the candidates of an earlier one, if they have been looked for, and
every history of it, perhaps with more values. -/
structure Session.Retains (s s' : Session) : Prop where
  candidates : s.isDiscovered = true → s'.candidates? = s.candidates?
  histories : ∀ expression values, s.tracked.history? expression = some values →
    ∃ more, s'.tracked.history? expression = some (values ++ more)

namespace Session

variable {s s' s'' : Session}

/-- A session that is not over forgets when it fails. -/
theorem fail_of_open (h : s.phase.isTerminal = false) :
    s.fail = { s with phase := .failed, candidates? := none, tracked := .empty } := by
  rw [fail, h]
  rfl

namespace Retains

theorem of_same (hcandidates : s'.candidates? = s.candidates?) (htracked : s'.tracked = s.tracked) :
    s.Retains s' :=
  ⟨fun _ => hcandidates, fun _ values h => ⟨[], by rw [htracked, h, List.append_nil]⟩⟩

theorem refl (s : Session) : s.Retains s := of_same rfl rfl

theorem trans (h : s.Retains s') (h' : s'.Retains s'') : s.Retains s'' := by
  refine ⟨fun hdiscovered => ?_, fun expression values hvalues => ?_⟩
  · have hsame := h.candidates hdiscovered
    have hdiscovered' : s'.isDiscovered = true := by
      rw [isDiscovered, hsame]
      exact hdiscovered
    exact (h'.candidates hdiscovered').trans hsame
  · obtain ⟨more, hmore⟩ := h.histories expression values hvalues
    obtain ⟨last, hlast⟩ := h'.histories expression _ hmore
    exact ⟨more ++ last, by rw [hlast, List.append_assoc]⟩

/-- A recorded value comes after those that are there. -/
theorem record (s : Session) (expression : String) (value : ValueRecord) :
    s.Retains (s.record expression value) := by
  refine ⟨fun _ => rfl, fun other values hvalues => ?_⟩
  change ∃ more, (s.tracked.record expression value).1.history? other = some (values ++ more)
  rw [TrackedExpressions.history?_record, hvalues]
  split
  · exact ⟨[value], rfl⟩
  · exact ⟨[], by rw [List.append_nil]⟩

/-- Candidates replace what is tracked, so nothing must be tracked before. -/
theorem setCandidates (hundiscovered : s.isDiscovered = false) (hnone : s.tracked.expressions = [])
    (candidates : List Candidate) : s.Retains (s.setCandidates candidates) := by
  refine ⟨fun h => absurd (h.symm.trans hundiscovered) (by simp), fun expression values h => ?_⟩
  have huntracked : s.tracked.history? expression = none :=
    TrackedExpressions.history?_eq_none_iff.2 (by simp [hnone])
  exact absurd (h.symm.trans huntracked) (by simp)

/-- A value that has been recorded stays where it is. -/
theorem value? (h : s.Retains s') {expression : String} {place : Nat} {value : ValueRecord}
    (hvalue : s.tracked.value? expression place = some value) :
    s'.tracked.value? expression place = some value := by
  obtain ⟨values, hvalues, hplace⟩ := Option.bind_eq_some_iff.1 hvalue
  obtain ⟨more, hmore⟩ := h.histories expression values hvalues
  rw [TrackedExpressions.value?, hmore, Option.bind_some]
  exact List.getElem?_append_left (List.getElem?_eq_some_iff.1 hplace).1 ▸ hplace

/-- The records of the earlier session are among those of the later one, in the same order. -/
theorem records (h : s.Retains s') (pauses pauses' : Nat) :
    (TraceResult.ofSession s pauses).records.Sublist
      (TraceResult.ofSession s' pauses').records := by
  cases hdiscovered : s.isDiscovered with
  | false =>
    have hnone : s.candidates? = none := by
      simpa only [isDiscovered, Option.isSome_eq_false_iff, Option.isNone_iff_eq_none]
        using hdiscovered
    simp [TraceResult.ofSession, Session.candidates, hnone]
  | true =>
    simp only [TraceResult.ofSession, Session.candidates, h.candidates hdiscovered]
    refine List.Sublist.flatMap_right _ fun c _ => ?_
    rw [TraceResult.recordsOf, TraceResult.recordsOf]
    cases hvalues : s.tracked.history? c.expression with
    | none => exact List.nil_sublist _
    | some values =>
      obtain ⟨more, hmore⟩ := h.histories c.expression values hvalues
      rw [hmore]
      exact (List.sublist_append_left values more).map _

end Retains

end Session

namespace Stepping

open Inspector
open Json (Value)

variable {o : Outset} {e e' : Engine}

/-! ### Trouble and failure -/

/-- With the outcome of its request the engine goes on by a step or at the end of its time. -/
theorem Answered.exists_event {errand : Errand} {call : RequestId} {connection : Connection}
    {outcome : Except TransportError Value} (h : Answered e errand call connection outcome) :
    ∃ event, (event = .step ∨ event = .elapse) ∧
      e.apply event = { e with connection }.handleReply errand outcome := by
  have houtcome := h.outcome
  rcases h.came with rfl | rfl
  · refine ⟨.step, Or.inl rfl, ?_⟩
    simp only [Engine.apply, Engine.step, h.point, Engine.stepReply, houtcome]
  · refine ⟨.elapse, Or.inr rfl, ?_⟩
    simp only [Engine.apply, Engine.elapse, h.point, houtcome]

/-- Trouble makes the outcome certain, by a step of the engine or at the end of a wait's time. -/
theorem Trouble.exists_event {connection : Connection} {error : SessionError}
    (h : Trouble e connection error) : ∃ event, (event = .step ∨ event = .elapse) ∧
      e.apply event = { e with connection, point := .unwinding (.error error) } := by
  cases h with
  | @configuration errand _ _ cause ha herrand =>
    obtain ⟨event, hevent, happly⟩ := ha.exists_event
    refine ⟨event, hevent, happly.trans ?_⟩
    cases errand with
    | evaluate | resume => exact Bool.noConfusion herrand
    | _ => rfl
  | breakpoint ha hdecode =>
    obtain ⟨event, hevent, happly⟩ := ha.exists_event
    refine ⟨event, hevent, happly.trans ?_⟩
    simp only [Engine.handleReply, hdecode, Engine.fail, Engine.goTo]
  | resume ha => exact ha.exists_event
  | evaluation ha hrecord =>
    obtain ⟨event, hevent, happly⟩ := ha.exists_event
    refine ⟨event, hevent, happly.trans ?_⟩
    simp only [Engine.handleReply, hrecord, Engine.fail, Engine.goTo]
  | unacknowledged hp hreceipt =>
    refine ⟨.step, Or.inl rfl, ?_⟩
    simp only [Engine.apply, Engine.step, hp, Engine.stepResumed, hreceipt, Engine.fail,
      Engine.goTo]
  | happening hp hhappening =>
    refine ⟨.step, Or.inl rfl, ?_⟩
    simp only [Engine.apply, Engine.step, hp, Engine.stepEvent, hhappening, Engine.handleHappening,
      Engine.fail, Engine.goTo]
  | pauseTimeout hp hbound hhappening =>
    refine ⟨.elapse, Or.inr rfl, ?_⟩
    simp only [Engine.apply, Engine.elapse, hp, hbound, hhappening, Engine.fail, Engine.goTo]
  | frameless hp hpause =>
    refine ⟨.step, Or.inl rfl, ?_⟩
    simp only [Engine.apply, Engine.step, hp, Engine.handleHalt, hpause, Engine.fail, Engine.goTo]

/-- A run fails only because it got into trouble. -/
theorem Outset.exists_trouble (o : Outset) {events : List Event} {error : SessionError}
    (hfault : (o.run events).point.fault? = some error) :
    ∃ before after connection, events = before ++ after ∧
      Trouble (o.run before) connection error := by
  induction events using List.reverseRecOn with
  | nil => exact absurd hfault (by simp [Outset.run, Engine.run, Outset.engine, Engine.begin,
      Point.fault?])
  | append_singleton events event ih =>
    have hearlier (h : (o.run events).point.fault? = some error) :
        ∃ before after connection, events ++ [event] = before ++ after ∧
          Trouble (o.run before) connection error := by
      obtain ⟨before, after, connection, rfl, htrouble⟩ := ih h
      exact ⟨before, after ++ [event], connection, List.append_assoc _ _ _, htrouble⟩
    rw [o.run_concat] at hfault
    rcases (o.run events).apply_cases event with ⟨connection, hsame⟩ | hmove
    · rw [hsame] at hfault
      exact hearlier hfault
    · rcases hmove.fault?_cases (o.lockstep_run events) hfault with hold | ⟨connection, htrouble⟩
      · exact hearlier hold
      · exact ⟨events, [event], connection, rfl, htrouble⟩

/-- A run that has failed has forgotten its candidates and its histories. -/
theorem Outset.forgets (o : Outset) (events : List Event) {error : SessionError}
    (hfailed : (o.run events).point = .finished (.error error)) :
    (o.run events).session.candidates? = none ∧ (o.run events).session.tracked = .empty := by
  suffices h : Lockstep (o.run events) ∧ ∀ error,
      (o.run events).point = .finished (.error error) →
        (o.run events).session.candidates? = none ∧ (o.run events).session.tracked = .empty from
    h.2 error hfailed
  refine Engine.run_induction (P := fun e => Lockstep e ∧ ∀ error,
    e.point = .finished (.error error) → e.session.candidates? = none ∧
      e.session.tracked = .empty) events
    ⟨o.lockstep_run [], fun _ h => Point.noConfusion h⟩
    (fun e text h => ⟨⟨h.1.point, h.1.phase⟩, h.2⟩) (fun e h => ⟨⟨h.1.point, h.1.phase⟩, h.2⟩)
    fun e e' h hmove => ⟨h.1.move hmove, fun error hfinished => ?_⟩
  obtain ⟨rfl, hp, -, -⟩ := hmove.eq_conclude hfinished
  have hopen : e.state.isTerminal = false := by
    have hadmits := h.1.point
    rw [hp] at hadmits
    exact hadmits
  have hsession : (e.conclude (.error error)).session = e.session.fail := rfl
  rw [hsession, Session.fail_of_open (h.1.isTerminal_phase hopen)]
  exact ⟨rfl, rfl⟩

/-! ### What a run keeps -/

/-- Before candidates have been looked for, nothing is tracked. -/
theorem Chronicle.expressions_eq_nil (h : Chronicle o e) (hopen : e.point.stage ≠ .lost)
    (hundiscovered : e.session.isDiscovered = false) : e.session.tracked.expressions = [] := by
  rcases h.readings with hlost | ⟨pauses, readings, -, hledger⟩
  · exact absurd hlost hopen
  · have hnone : e.session.candidates = [] := by
      rw [Session.isDiscovered, Option.isSome_eq_false_iff, Option.isNone_iff_eq_none]
        at hundiscovered
      rw [Session.candidates, hundiscovered]
      rfl
    rw [hledger.tracked, TrackedExpressions.expressions_recordAll, hnone]
    rfl

/-- Engines with the same record have kept what was recorded. -/
theorem SameRecord.retains (h : SameRecord e e') : e.session.Retains e'.session :=
  .of_same h.candidates h.tracked

/-- A move keeps what was recorded, unless the run fails. -/
theorem Move.retains (hmove : Move e e') (ha : e.Accounted) (hc : Chronicle o e) :
    e'.point.stage = .lost ∨ e.session.Retains e'.session := by
  obtain ⟨found, hadvance⟩ := hmove.advance ha (Nat.zero_le _)
  cases hadvance with
  | lose hafter => exact Or.inl hafter
  | stay _ hsame _ => exact Or.inr hsame.retains
  | inquire _ _ hsame _ _ => exact Or.inr hsame.retains
  | install _ _ _ _ hsame _ => exact Or.inr (.of_same hsame.candidates hsame.tracked)
  | reach _ _ hsame _ => exact Or.inr (.of_same hsame.candidates hsame.tracked)
  | skip _ _ _ _ hsame _ => exact Or.inr hsame.retains
  | take _ _ _ _ hsame _ => exact Or.inr hsame.retains
  | ask _ _ hsame _ _ => exact Or.inr hsame.retains
  | finish _ _ hsame _ => exact Or.inr hsame.retains
  | @discover pause hbefore heq =>
    obtain ⟨counted, point, hnext⟩ := Engine.evaluateNext_eq (e.discover pause) pause
      (e.discover pause).session.tracked.expressions
    rw [heq, hnext, Engine.discover]
    split
    · exact Or.inr (.refl _)
    · rename_i hundiscovered
      have hopen : e.point.stage ≠ .lost := fun hlost =>
        Stage.noConfusion (hbefore.symm.trans hlost)
      exact Or.inr (.setCandidates (Bool.eq_false_iff.2 hundiscovered)
        (hc.expressions_eq_nil hopen (Bool.eq_false_iff.2 hundiscovered)) _)
  | record _ _ _ _ heq =>
    obtain ⟨counted, point, hnext⟩ := Engine.evaluateNext_eq _ _ _
    rw [heq, hnext]
    exact Or.inr (.record _ _ _)

/-- What was recorded at some moment of a run stays, unless the run fails. -/
theorem Outset.retains_run (o : Outset) (earlier later : List Event) :
    (o.run (earlier ++ later)).point.stage = .lost ∨
      (o.run earlier).session.Retains (o.run (earlier ++ later)).session := by
  refine o.run_induction_from (P := fun e => e.point.stage = .lost ∨
    (o.run earlier).session.Retains e.session) earlier later (Or.inr (.refl _)) (fun _ _ _ h => h)
    (fun _ _ h => h) fun e e' ha hc _ h hmove => ?_
  rcases h with hlost | hretains
  · obtain ⟨found, hadvance⟩ := hmove.advance ha (Nat.zero_le _)
    exact Or.inl (hadvance.lost hlost)
  · exact (hmove.retains ha hc).imp_right hretains.trans

/-! ### All or nothing -/

/-- Whatever trouble a run gets into, at whatever moment, it fails with that error once it has taken
enough steps to give back what it holds, whatever else happens.  A run that has failed got into that
trouble at some moment; engine and session have failed, the session has no candidates and tracks
nothing, and its result is empty.  When a run ends with the debuggee, engine and session are
terminated, and everything that was recorded at any moment of the run is still there. -/
theorem all_or_nothing (o : Outset) (events : List Event) :
    let e := o.run events
    (∀ connection error, Trouble e connection error → ∃ event, (event = .step ∨ event = .elapse) ∧
      ∀ more, e.waiters.length + e.observers.length < more.count .step →
        (o.run (events ++ event :: more)).outcome? = some (.error error)) ∧
    (∀ error, e.outcome? = some (.error error) →
      (∃ before after connection, events = before ++ after ∧
        Trouble (o.run before) connection error) ∧
      e.state = .failed ∧ e.session.phase = .failed ∧ e.session.candidates? = none ∧
      e.session.tracked = .empty ∧
      ∀ pauses, TraceResult.ofSession e.session pauses = ⟨[], [], pauses⟩) ∧
    ∀ n, e.outcome? = some (.ok n) →
      e.state = .terminated ∧ e.session.phase = .terminated ∧
      ∀ before after, events = before ++ after →
        (o.run before).session.Retains e.session ∧
        (TraceResult.ofSession (o.run before).session (o.run before).pauses).records.Sublist
          (TraceResult.ofSession e.session n).records := by
  intro e
  have hlock := o.lockstep_run events
  refine ⟨fun connection error htrouble => ?_, fun error houtcome => ?_, fun n houtcome => ?_⟩
  · obtain ⟨event, hevent, happly⟩ := htrouble.exists_event
    refine ⟨event, hevent, fun more hsteps => ?_⟩
    rw [o.run_append, Engine.run_cons, happly]
    exact (Engine.run_of_unwinding
      (e := { e with connection, point := .unwinding (.error error) }) rfl hsteps).1
  · have hp := Engine.point_of_outcome? houtcome
    have hstate : e.state = .failed := by
      have hadmits := hlock.point
      rw [hp] at hadmits
      exact hadmits
    obtain ⟨hcandidates, htracked⟩ := o.forgets events hp
    refine ⟨o.exists_trouble (by rw [hp]; rfl), hstate, ?_, hcandidates, htracked, fun pauses => ?_⟩
    · rw [hlock.phase]
      exact congrArg (EngineState.phaseAfter · e.pauses) hstate
    · simp only [TraceResult.ofSession, Session.candidates]
      rw [hcandidates, htracked]
      rfl
  · obtain ⟨hstate, hphase, -, -⟩ := o.spent events houtcome
    refine ⟨hstate, hphase, ?_⟩
    rintro before after rfl
    have hretains : (o.run before).session.Retains e.session := by
      rcases o.retains_run before after with hlost | hretains
      · exact Stage.noConfusion ((Engine.stage_of_outcome? houtcome).symm.trans hlost)
      · exact hretains
    exact ⟨hretains, hretains.records _ _⟩

/-- The value of the one expression has been recorded, and then the connection ends. -/
def sampleCutOff : List Event :=
  sampleResumed ++ [.halt ["line 2"]] ++ steps 7 ++
  [.answer 7 (some (.object [("result",
    .object [("type", .string "number"), ("description", .string "1")])]))] ++
  steps 1

/-- A recorded value is forgotten when the connection ends before the debuggee does, and it is kept
when the debuggee ends. -/
theorem all_or_nothing_sample :
    (TraceResult.ofSession (sample.run sampleCutOff).session 0).records.length = 1 ∧
      TraceResult.ofSession (sample.run (sampleCutOff ++ [.hangUp] ++ steps 20)).session 1 =
        ⟨[], [], 1⟩ ∧
      (sample.run sampleFinished).session.phase = .terminated := by
  have hfacts : (TraceResult.ofSession (sample.run sampleCutOff).session 0).records.length = 1 ∧
      (sample.run (sampleCutOff ++ [.hangUp] ++ steps 20)).outcome?.any (fun r => !r.isOk) =
        true := by
    decide +kernel
  obtain ⟨hrecords, hfailed⟩ := hfacts
  obtain ⟨-, hforgets, -⟩ := all_or_nothing sample (sampleCutOff ++ [.hangUp] ++ steps 20)
  obtain ⟨-, -, hkeeps⟩ := all_or_nothing sample sampleFinished
  obtain ⟨outcome, houtcome, herror⟩ := (Option.any_eq_true _ _).1 hfailed
  cases outcome with
  | ok pauses => exact Bool.noConfusion herror
  | error error =>
    exact ⟨hrecords, (hforgets error houtcome).2.2.2.2.2 1, (hkeeps 1 sampleFinished_facts.1).2.1⟩

end Stepping

end ValueTrace
