import ValueTrace.Proofs.Coordinator.Changes
import ValueTrace.Proofs.Coordinator.SingleFlight

/-!
# Cancellation wins

A run that is cancelled at a wait that heeds cancellation, or before it comes to one, has lost:
whatever answer there is for it already, it asks for nothing more, only takes down what it has, and
ends superseded (`Coordinator.cancellation_wins`).

## Main definitions

* `Stage.heeds` : whether a wait ends as soon as its run is cancelled.
* `Act.unwinds` : what a run still does when it has lost.
* `Doomed` : the stages of a run that has lost.
* `Stage.wayOut` : the polls that it takes to the end.

## Main results

* `Change.doomed` : a run that has lost stays lost.
* `Coordinator.superseded_of_wayOut` : polled often enough, it ends.
-/

namespace ValueTrace

namespace Coordinator

open Inspector (Connection)
open List (Sublist)

variable {c : Coordinator} {id : RunId} {r r' : Run} {stage : Stage} {acts : List Act}
variable {settings : EngineSettings} {event : Event} {answer : Option Answer}
variable {slot : Option RunId}

/-- Whether a run in a stage is at a wait that ends as soon as the run is cancelled. -/
def Stage.heeds (settings : EngineSettings) : Stage → Bool
  | .parsing _ | .launching .. | .connecting .. => true
  | .stepping _ _ awake => !awake
  | .settling .. => !settings.settleDelay.isZero
  | _ => false

/-- Whether an act only takes down what there is, and not gracefully. -/
def Act.unwinds : Act → Bool
  | .closes | .stops false | .ends => true
  | _ => false

/-- The stages of a cancelled run that can only end superseded. -/
inductive Doomed (settings : EngineSettings) : Stage → Prop
  | heeding {wait} (hheeds : wait.heeds settings = true) : Doomed settings wait
  | closing {connection debuggee} :
      Doomed settings (.closing connection debuggee (.error .superseded))
  | stopping {debuggee} : Doomed settings (.stopping debuggee (.error .superseded))
  | finished : Doomed settings (.finished (.error .superseded))
  | dropped : Doomed settings .dropped

/-- The polls that lead a run out: one with any answer, the end of the connection and the end of
the debuggee. -/
def Stage.wayOut (id : RunId) (answer : Option Answer) : Stage → List Event
  | .closing .. => [.poll id (some .closed), .poll id (some .stopped)]
  | .stopping .. => [.poll id (some .stopped)]
  | .finished _ | .dropped => []
  | _ => [.poll id answer, .poll id (some .closed), .poll id (some .stopped)]

/-! ### Lost runs stay lost -/

theorem Stage.heeds_onConnection (f : Connection → Connection) (r : Run) :
    (onConnection f r).stage.heeds settings = r.stage.heeds settings := by
  cases hstage : r.stage <;> simp [onConnection, hstage, heeds]

theorem Stage.wayOut_onConnection (f : Connection → Connection) (r : Run) :
    (onConnection f r).stage.wayOut id answer = r.stage.wayOut id answer := by
  cases hstage : r.stage <;> simp [onConnection, hstage, wayOut]

theorem Stage.wayOut_of_heeds (h : stage.heeds settings = true) :
    stage.wayOut id answer =
      [.poll id answer, .poll id (some .closed), .poll id (some .stopped)] := by
  cases stage <;> first | rfl | exact Bool.noConfusion h

/-- What happens to its connection does not save a run. -/
theorem Doomed.onConnection (h : Doomed settings r.stage) (f : Connection → Connection) :
    Doomed settings (onConnection f r).stage := by
  generalize hstage : r.stage = stage at h
  cases h with
  | heeding hheeds => exact .heeding (by rwa [Stage.heeds_onConnection, hstage])
  | closing =>
    rw [Coordinator.onConnection, hstage]
    exact .closing
  | stopping =>
    rw [Coordinator.onConnection, hstage, hstage]
    exact .stopping
  | finished =>
    rw [Coordinator.onConnection, hstage, hstage]
    exact .finished
  | dropped =>
    rw [Coordinator.onConnection, hstage, hstage]
    exact .dropped

/-- The strides of a lost run lead further out, and it does nothing but take down what it has. -/
theorem Doomed.stride (h : Doomed c.settings r.stage) (hcancelled : r.cancelled = true)
    (hstride : Stride c r stage acts slot) :
    Doomed c.settings stage ∧ (∀ act ∈ acts, act.unwinds = true) ∧
      ∀ id answer, Sublist (stage.wayOut id answer) (r.stage.wayOut id answer) := by
  cases hstride with
  | quitParsing | quitLaunching =>
    exact ⟨.finished, by simp [Act.unwinds], fun _ _ => List.nil_sublist _⟩
  | retreat _ hstage =>
    rw [hstage]
    exact ⟨.stopping, by simp, by simp [Stage.wayOut]⟩
  | interrupt _ hstage | unsettle _ hstage =>
    rw [hstage]
    exact ⟨.closing, by simp, by simp [Stage.wayOut]⟩
  | closed hstage =>
    rw [hstage] at h ⊢
    cases h with
    | heeding hheeds => exact Bool.noConfusion hheeds
    | closing => exact ⟨.stopping, by simp [Act.unwinds], by simp [Stage.wayOut]⟩
  | stopped hstage =>
    rw [hstage] at h ⊢
    cases h with
    | heeding hheeds => exact Bool.noConfusion hheeds
    | stopping => exact ⟨.finished, by simp [Act.unwinds, hasResult], fun _ _ => List.nil_sublist _⟩
  -- Nothing is heeded in these stages, so a lost run is in none of them.
  | take _ hstage | takeFree _ hstage | queue hstage | enter _ hstage | resolve hstage =>
    rw [hstage] at h
    cases h with
    | heeding hheeds => exact Bool.noConfusion hheeds
  -- All other strides are those of runs that have not noticed any cancellation.
  | step hunheeded hstage | stepped hunheeded hstage | failed hunheeded hstage =>
    rw [hstage] at h
    rw [hcancelled, Bool.true_and] at hunheeded
    cases h with
    | heeding hheeds => exact Bool.noConfusion (hheeds.symm.trans hunheeded)
  | settled hstage hunheeded =>
    rw [hstage] at h
    cases h with
    | heeding hheeds =>
      have hdelay : c.settings.settleDelay.isZero = false := by simpa [Stage.heeds] using hheeds
      rcases hunheeded with hnone | hfree
      · exact Bool.noConfusion (hnone.symm.trans hdelay)
      · exact Bool.noConfusion (hcancelled.symm.trans hfree)
  | parse hfree | parsed hfree | reject hfree | unparsed hfree | launch hfree | launched hfree
  | unlaunched hfree | connect hfree | connected hfree | unconnected hfree =>
    exact Bool.noConfusion (hcancelled.symm.trans hfree)

/-- Whatever happens to a lost run, it stays lost. -/
theorem Change.doomed (hchange : Change c event r r' acts) (hcancelled : r.cancelled = true)
    (h : Doomed c.settings r.stage) :
    r'.cancelled = true ∧ Doomed c.settings r'.stage ∧ (∀ act ∈ acts, act.unwinds = true) ∧
      ∀ id answer, Sublist (r'.stage.wayOut id answer) (r.stage.wayOut id answer) := by
  cases hchange with
  | stay hkept => exact ⟨hkept hcancelled, h, by simp, fun _ _ => Sublist.refl _⟩
  | hear f =>
    refine ⟨?_, h.onConnection f, by simp, fun _ _ => by rw [Stage.wayOut_onConnection]⟩
    rw [Coordinator.onConnection]
    split <;> exact hcancelled
  | stride _ hkept hstride => exact ⟨hkept hcancelled, h.stride hcancelled hstride⟩
  | drop _ hkept =>
    exact ⟨hkept hcancelled, .dropped, by simp [Act.unwinds], fun _ _ => List.nil_sublist _⟩

/-! ### The way out -/

theorem Carries.run?_self {c' : Coordinator} (hcarries : Carries c c' id stage acts slot)
    (h : c.run? id = some r) : ∃ r', c'.run? id = some r' ∧ r'.stage = stage := by
  obtain ⟨cancelled, -, hrun⟩ := hcarries.runs id r h
  rw [if_pos rfl] at hrun
  exact ⟨_, hrun, rfl⟩

/-- A poll that a lost run waits for leads it further out. -/
theorem poll_wayOut (h : c.run? id = some r) (hcancelled : r.cancelled = true)
    (hdoomed : Doomed c.settings r.stage) {rest : List Event}
    (hout : r.stage.wayOut id answer = event :: rest) :
    ∃ r', (c.apply event).run? id = some r' ∧ Sublist (r'.stage.wayOut id answer) rest := by
  obtain rfl := id_of_run? h
  suffices hcarries : ∃ stage acts slot, Carries c (c.apply event) r.id stage acts slot ∧
      Sublist (stage.wayOut r.id answer) rest by
    obtain ⟨stage, acts, slot, hcarries, hrest⟩ := hcarries
    obtain ⟨r', hrun, hstage⟩ := hcarries.run?_self h
    exact ⟨r', hrun, by rwa [hstage]⟩
  cases hstage : r.stage with
  | parsing started =>
    rw [hstage] at hout
    obtain ⟨rfl, rfl⟩ := List.cons.inj hout
    simp only [apply, poll, h, pollRun, hstage, pollParsing, hcancelled, if_true]
    exact ⟨_, _, _, carries_quit c r.id _, List.nil_sublist _⟩
  | launching program session started =>
    rw [hstage] at hout
    obtain ⟨rfl, rfl⟩ := List.cons.inj hout
    simp only [apply, poll, h, pollRun, hstage, pollLaunching, hcancelled, if_true]
    exact ⟨_, _, _, carries_quit c r.id _, List.nil_sublist _⟩
  | connecting program session debuggee started =>
    rw [hstage] at hout
    obtain ⟨rfl, rfl⟩ := List.cons.inj hout
    simp only [apply, poll, h, pollRun, hstage, pollConnecting, hcancelled, if_true]
    exact ⟨_, _, _, carries_move c r.id _, by simp [Stage.wayOut]⟩
  | stepping engine debuggee awake =>
    rw [hstage] at hout hdoomed
    obtain ⟨rfl, rfl⟩ := List.cons.inj hout
    cases hdoomed with
    | heeding hheeds =>
      have hheeded : (r.cancelled && !awake) = true := by
        rw [hcancelled, Bool.true_and]
        exact hheeds
      simp only [apply, poll, h, pollRun, hstage, pollStepping, hheeded, if_true]
      exact ⟨_, _, _, carries_move c r.id _, by simp [Stage.wayOut]⟩
  | settling engine debuggee pauses =>
    rw [hstage] at hout hdoomed
    obtain ⟨rfl, rfl⟩ := List.cons.inj hout
    cases hdoomed with
    | heeding hheeds =>
      have hdelay : c.settings.settleDelay.isZero = false := by simpa [Stage.heeds] using hheeds
      simp only [apply, poll, h, pollRun, hstage, pollSettling, hdelay, hcancelled, if_true,
        Bool.false_eq_true, if_false]
      exact ⟨_, _, _, carries_move c r.id _, by simp [Stage.wayOut]⟩
  | closing connection debuggee outcome =>
    rw [hstage] at hout
    obtain ⟨rfl, rfl⟩ := List.cons.inj hout
    simp only [apply, poll, h, pollRun, hstage, pollClosing, ite_self]
    exact ⟨_, _, _, carries_moveTo c r.id _ [.closes], by simp [Stage.wayOut]⟩
  | stopping debuggee outcome =>
    rw [hstage] at hout
    obtain ⟨rfl, rfl⟩ := List.cons.inj hout
    simp only [apply, poll, h, pollRun, hstage, pollStopping]
    exact ⟨_, _, _, carries_leave c r.id (.finished outcome) [.stops (hasResult outcome)],
      List.nil_sublist _⟩
  | finished outcome | dropped =>
    rw [hstage] at hout
    cases hout
  | arriving | superseding previous | queued previous | resolving program =>
    rw [hstage] at hdoomed
    cases hdoomed with
    | heeding hheeds => exact Bool.noConfusion hheeds

theorem outcome?_eq_some_iff (h : c.run? id = some r) {outcome : Outcome} :
    c.outcome? id = some outcome ↔ r.stage = .finished outcome := by
  rw [outcome?, h, Option.map_some]
  cases r.stage <;> simp

/-- A lost run that has an outcome is superseded. -/
theorem Doomed.eq_of_finished {outcome : Outcome} (h : Doomed settings (.finished outcome)) :
    outcome = .error .superseded := by
  cases h with
  | heeding hheeds => exact Bool.noConfusion hheeds
  | finished => rfl

/-- A lost run that has no way to go any more has its outcome, unless its caller has walked away. -/
theorem Doomed.eq_of_wayOut_eq_nil (h : Doomed settings stage)
    (hend : stage.wayOut id answer = []) (hkept : stage ≠ .dropped) :
    stage = .finished (.error .superseded) := by
  cases h with
  | finished => rfl
  | dropped => exact absurd rfl hkept
  | closing | stopping => cases hend
  | heeding hheeds =>
    cases hstage : stage <;> rw [hstage] at hheeds hend <;>
      first | exact Bool.noConfusion hheeds | cases hend

/-- Only its caller drops a run. -/
theorem Change.ne_dropped (hchange : Change c event r r' acts) (hkept : r.stage ≠ .dropped)
    (hevent : event ≠ .drop r.id) : r'.stage ≠ .dropped := by
  cases hchange with
  | stay => exact hkept
  | hear f =>
    rw [onConnection]
    split <;> first | exact hkept | simp
  | stride _ _ hstride => cases hstride <;> simp
  | drop heq => exact absurd heq hevent

/-- A lost run that is polled on its way out, whatever else happens, ends superseded, unless its
caller walks away. -/
theorem superseded_of_wayOut {events : List Event} (h : c.run? id = some r)
    (hcancelled : r.cancelled = true) (hdoomed : Doomed c.settings r.stage)
    (hkept : r.stage ≠ .dropped) (hdriven : Event.drop id ∉ events)
    (hout : Sublist (r.stage.wayOut id answer) events) :
    (c.run events).outcome? id = some (.error .superseded) := by
  induction events generalizing c r with
  | nil =>
    refine (outcome?_eq_some_iff h).2 (hdoomed.eq_of_wayOut_eq_nil (List.sublist_nil.1 hout) hkept)
  | cons event events ih =>
    obtain ⟨r', acts, hchange, hrun, -⟩ := change_apply h event
    obtain ⟨hcancelled', hdoomed', -, hless⟩ := hchange.doomed hcancelled hdoomed
    have hkept' : r'.stage ≠ .dropped := by
      refine hchange.ne_dropped hkept fun heq => hdriven ?_
      rw [heq, id_of_run? h]
      exact List.mem_cons_self
    rw [← settings_apply c event] at hdoomed'
    have hdriven' : Event.drop id ∉ events := fun hmem => hdriven (List.mem_cons_of_mem _ hmem)
    refine ih hrun hcancelled' hdoomed' hkept' hdriven' ?_
    rcases List.sublist_cons_iff.1 hout with hlater | ⟨rest, hnow, hrest⟩
    · exact (hless id answer).trans hlater
    · obtain ⟨s, hs, hmore⟩ := poll_wayOut h hcancelled hdoomed hnow
      obtain rfl : r' = s := Option.some.inj (hrun.symm.trans hs)
      exact hmore.trans hrest

/-- A run that is cancelled at a wait that heeds cancellation, or on its way to one, returns nothing
but that it was superseded, whatever happens from then on and whatever answers come.  It asks for
nothing more: all that it still does is to close its connection, to stop its debuggee at once and to
end.  And it does return, unless its caller walks away, as soon as it has been polled, its
connection has been closed and its debuggee has been stopped. -/
theorem cancellation_wins (settings : EngineSettings) (events : List Event) {id : RunId} {r : Run}
    (hrun : ((start settings).run events).run? id = some r) (hcancelled : r.cancelled = true)
    (hheeds : r.stage.heeds settings = true) (more : List Event) :
    let c := (start settings).run events
    let c' := c.run more
    (∀ outcome, c'.outcome? id = some outcome → outcome = .error .superseded) ∧
    (∃ acts, c'.actsOf id = c.actsOf id ++ acts ∧ ∀ act ∈ acts, act.unwinds = true) ∧
    (Event.drop id ∉ more → ∀ answer,
      Sublist [.poll id answer, .poll id (some .closed), .poll id (some .stopped)] more →
      c'.outcome? id = some (.error .superseded)) := by
  intro c c'
  have hsettings : c.settings = settings := settings_run (start settings) events
  obtain ⟨r', acts, hrun', hacts, hdoomed, hunwinds⟩ :=
    run_of_change
      (P := fun r acts => (r.cancelled = true ∧ Doomed settings r.stage) ∧
        ∀ act ∈ acts, act.unwinds = true)
      (fun c event r acts r' more' hsame hlost hchange => by
        subst hsame
        obtain ⟨hcancelled', hdoomed', hunwinds', -⟩ :=
          hchange.doomed hlost.1.1 hlost.1.2
        exact ⟨⟨hcancelled', hdoomed'⟩, List.forall_mem_append.2 ⟨hlost.2, hunwinds'⟩⟩)
      hsettings hrun ⟨⟨hcancelled, .heeding hheeds⟩, by simp⟩ (List.append_nil _).symm more
  refine ⟨fun outcome houtcome => ?_, ⟨acts, hacts, hunwinds⟩, fun hdriven answer hout => ?_⟩
  · have hfinished := (outcome?_eq_some_iff hrun').1 houtcome
    exact (hfinished ▸ hdoomed.2).eq_of_finished
  · have hkept : r.stage ≠ .dropped := by
      intro hdropped
      rw [hdropped] at hheeds
      exact Bool.noConfusion hheeds
    rw [← Stage.wayOut_of_heeds hheeds] at hout
    exact superseded_of_wayOut hrun hcancelled (.heeding (hsettings ▸ hheeds)) hkept hdriven hout

/-- The first run waits for its syntax tree when it is cancelled. -/
def sampleCancelled : List Event :=
  [.call sampleRequest, .poll 1 none, .poll 1 none, .cancelActive]

/-- The tree is there when the run looks again. -/
def sampleTooLate : List Event :=
  [.poll 1 (some (.parsed (.ok ⟨.other "Program" none []⟩))), .poll 1 (some .closed),
    .poll 1 (some .stopped)]

theorem cancellation_wins_sample :
    ((start .default).run sampleCancelled).run? 1 =
      some ⟨1, sampleRequest, true, .parsing true⟩ ∧
    Stage.heeds .default (.parsing true) = true ∧
    (((start .default).run sampleCancelled).run sampleTooLate).outcome? 1 =
      some (.error .superseded) := by
  have hrun : ((start .default).run sampleCancelled).run? 1 =
      some ⟨1, sampleRequest, true, .parsing true⟩ := by rfl
  have hdriven : Event.drop 1 ∉ sampleTooLate := by simp [sampleTooLate]
  exact ⟨hrun, rfl, (cancellation_wins .default sampleCancelled hrun rfl rfl sampleTooLate).2.2
    hdriven _ (Sublist.refl sampleTooLate)⟩

end Coordinator

end ValueTrace
