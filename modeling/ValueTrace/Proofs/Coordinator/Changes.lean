import ValueTrace.Proofs.Coordinator.Diaries

/-!
# What happens to a run

All that can happen to a run apart from its own strides is that it is cancelled, that something
happens to its connection, or that its caller walks away (`Coordinator.change_apply`).  What all of
this keeps holds of every run at all times, together with what the run has done.

## Main definitions

* `Change` : what an event may do to a run.

## Main results

* `Coordinator.change_apply` : what events do to a run.
* `Coordinator.run_of_change`, `run_induction_of_change` : what holds of all runs.
-/

namespace ValueTrace

namespace Coordinator

open Inspector (Connection)

variable {c c' : Coordinator} {id : RunId} {r r' : Run} {stage : Stage} {acts : List Act}
variable {settings : EngineSettings} {slot : Option RunId}

/-! ### Changes -/

/-- What an event may do to a run of a coordinator, and what the run does. -/
inductive Change (c : Coordinator) (event : Event) (r : Run) : Run → List Act → Prop
  /-- Nothing but perhaps that the run is cancelled. -/
  | stay {cancelled} (hcancelled : r.cancelled = true → cancelled = true) :
      Change c event r { r with cancelled } []
  /-- Something happens to the connection of the run. -/
  | hear (f : Connection → Connection) : Change c event r (onConnection f r) []
  /-- The run is polled. -/
  | stride {answer cancelled stage acts slot} (hevent : event = .poll r.id answer)
      (hcancelled : r.cancelled = true → cancelled = true) (h : Stride c r stage acts slot) :
      Change c event r { r with cancelled, stage } acts
  /-- The caller of the run walks away. -/
  | drop {cancelled} (hevent : event = .drop r.id)
      (hcancelled : r.cancelled = true → cancelled = true)
      (hsuspended : r.stage.isSuspended = true) :
      Change c event r { r with cancelled, stage := .dropped } [.ends]

theorem Change.refl (c : Coordinator) (event : Event) (r : Run) : Change c event r r [] :=
  .stay fun h : r.cancelled = true => h

/-- The run with a number is changed, and does something. -/
def Changes (event : Event) (c c' : Coordinator) (id : RunId) (r : Run) : Prop :=
  ∃ r' acts, Change c event r r' acts ∧ c'.run? id = some r' ∧
    c'.actsOf id = c.actsOf id ++ acts

theorem changes_self (event : Event) (h : c.run? id = some r) : Changes event c c id r :=
  ⟨r, [], .refl c event r, h, (List.append_nil _).symm⟩

/-- A run does nothing while another one moves. -/
theorem Carries.actsOf_other {mover : RunId} (hcarries : Carries c c' mover stage acts slot)
    (hid : id ≠ mover) : c'.actsOf id = c.actsOf id := by
  rw [actsOf, hcarries.history, actsIn_append, actsIn_map_other acts hid, List.append_nil, actsOf]

/-- A run that comes to a stage is changed by that, and any other run at most cancelled. -/
theorem Carries.changes {mover : RunId} {s : Run} {event : Event}
    (hcarries : Carries c c' mover stage acts slot) (hmover : c.run? mover = some s)
    (hchange : ∀ cancelled, (s.cancelled = true → cancelled = true) →
      Change c event s { s with cancelled, stage } acts)
    (h : c.run? id = some r) : Changes event c c' id r := by
  obtain ⟨cancelled, hcancelled, hrun⟩ := hcarries.runs id r h
  by_cases hid : id = mover
  · subst hid
    obtain rfl : r = s := Option.some.inj (h.symm.trans hmover)
    rw [if_pos rfl] at hrun
    refine ⟨_, acts, hchange cancelled hcancelled, hrun, ?_⟩
    rw [actsOf, hcarries.history, actsIn_append, actsIn_map_self, actsOf]
  · rw [if_neg hid] at hrun
    exact ⟨_, [], .stay hcancelled, hrun, by rw [hcarries.actsOf_other hid, List.append_nil]⟩

theorem changes_poll (h : c.run? id = some r) (polled : RunId) (answer : Option Answer) :
    Changes (.poll polled answer) c (c.poll polled answer) id r := by
  rcases poll_cases c polled answer with hsame | ⟨s, stage, acts, slot, hs, hstride, hcarries⟩
  · rw [hsame]
    exact changes_self _ h
  · exact hcarries.changes hs
      (fun _ hcancelled => .stride (by rw [id_of_run? hs]) hcancelled hstride) h

theorem changes_drop (h : c.run? id = some r) (target : RunId) :
    Changes (.drop target) c (c.drop target) id r := by
  rcases drop_cases c target with hsame | ⟨s, hs, hsuspended, hcarries⟩
  · rw [hsame]
    exact changes_self _ h
  · exact hcarries.changes hs
      (fun _ hcancelled => .drop (by rw [id_of_run? hs]) hcancelled hsuspended) h

theorem changes_onConnection (event : Event) (h : c.run? id = some r) (target : RunId)
    (f : Connection → Connection) :
    Changes event c (c.updateRun target (onConnection f)) id r := by
  have hrun : (c.updateRun target (onConnection f)).run? id = _ :=
    run?_updateRun (fun r => (place_onConnection f r).1) id
  rw [h, Option.map_some] at hrun
  split at hrun
  · exact ⟨_, [], .hear f, hrun, (List.append_nil _).symm⟩
  · exact ⟨_, [], .refl c _ r, hrun, (List.append_nil _).symm⟩

/-- An event changes a run in one of a few ways. -/
theorem change_apply (h : c.run? id = some r) (event : Event) :
    Changes event c (c.apply event) id r := by
  cases event with
  | call request =>
    refine ⟨r, [], .refl c _ r, ?_, (List.append_nil _).symm⟩
    exact List.find?_append.trans (congrArg (Option.or · _) h)
  | poll polled answer => exact changes_poll h polled answer
  | frame target text => exact changes_onConnection _ h target _
  | hangUp target => exact changes_onConnection _ h target _
  | cancelActive =>
    rw [apply, cancelActive]
    split
    · rename_i target hactive
      obtain ⟨cancelled, hcancelled, hrun⟩ := run?_cancel h target
      exact ⟨_, [], .stay hcancelled, hrun, (List.append_nil _).symm⟩
    · exact changes_self _ h
  | drop target => exact changes_drop h target

/-! ### Histories of a run -/

theorem settings_apply (c : Coordinator) (event : Event) :
    (c.apply event).settings = c.settings := by
  cases event with
  | poll id answer =>
    rcases poll_cases c id answer with hsame | ⟨r, stage, acts, slot, -, -, hcarries⟩
    · exact congrArg Coordinator.settings hsame
    · exact hcarries.settings
  | cancelActive =>
    rw [apply, cancelActive]
    split <;> rfl
  | drop id =>
    rcases drop_cases c id with hsame | ⟨r, -, -, hcarries⟩
    · exact congrArg Coordinator.settings hsame
    · exact hcarries.settings
  | _ => rfl

theorem settings_run (c : Coordinator) (events : List Event) :
    (c.run events).settings = c.settings := by
  induction events generalizing c with
  | nil => rfl
  | cons event events ih => exact (ih (c.apply event)).trans (settings_apply c event)

variable {P : Run → List Act → Prop}

/-- What is kept by changes holds of a run whatever happens later, together with what the run does
from then on. -/
theorem run_of_change
    (hchange : ∀ c event r acts r' more, c.settings = settings → P r acts →
      Change c event r r' more → P r' (acts ++ more))
    (hsettings : c.settings = settings) (h : c.run? id = some r) (hP : P r acts)
    {before : List Act} (hacts : c.actsOf id = before ++ acts) (events : List Event) :
    ∃ r' acts', (c.run events).run? id = some r' ∧
      (c.run events).actsOf id = before ++ acts' ∧ P r' acts' := by
  induction events generalizing c r acts with
  | nil => exact ⟨r, acts, h, hacts, hP⟩
  | cons event events ih =>
    obtain ⟨r', more, hchanged, hrun, hmore⟩ := change_apply h event
    refine ih ((settings_apply c event).trans hsettings) hrun
      (hchange c event r acts r' more hsettings hP hchanged) ?_
    rw [hmore, hacts, List.append_assoc]

end Coordinator

end ValueTrace
