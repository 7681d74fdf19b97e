import ValueTrace.Proofs.Coordinator.Diaries

/-!
# One run at a time

While no caller walks away, runs follow one another: whoever took the slot does nothing more before
everyone who took it earlier has given back the connection and the debuggee and is over.  Callers
may walk away as well, as long as they do not leave the line while the run ahead of them lives: the
slot is then held as long as any run that has begun is not over.  A caller who leaves the line
earlier frees the slot too early.

## Main results

* `Coordinator.one_run_at_a_time` : runs follow one another.
* `Coordinator.slot_held_while_live` : the slot is held as long as a run lives.
* `Coordinator.slot_forgets_live_run` : it is not when a waiting run is dropped too early.
-/

namespace ValueTrace

namespace Coordinator

open Inspector (Connection)

variable {c c' : Coordinator} {id a : RunId} {r s : Run} {events : List Event}
variable {settings : EngineSettings}

/-! ### Runs on their way -/

/-- Whether a run at a place is on its way. -/
def Place.isWithin : Place → Bool
  | .within .. => true
  | _ => false

theorem Place.of_isWithin {place : Place} (h : place.isWithin = true) :
    place.hasStarted = true ∧ place.isDone = false := by
  cases place <;> first | exact ⟨rfl, rfl⟩ | exact Bool.noConfusion h

/-- The connection of a run in a stage, over which it sends. -/
def Stage.connection? : Stage → Option Connection
  | .stepping engine _ _ => some engine.connection
  | .settling engine _ _ => some engine.connection
  | .closing connection _ _ => some connection
  | _ => none

/-- A waiting run has nothing to send over. -/
theorem Stage.connection?_of_waiting {stage : Stage} {previous : RunId}
    (h : stage.place = .waiting previous) : stage.connection? = none := by
  cases stage <;> first | rfl | cases h

/-- Where no caller walks away, no run is dropped. -/
theorem Turn.not_dropped (turn : Turn false c c') (h : ∀ id, c.place? id ≠ some .dropped)
    (id : RunId) : c'.place? id ≠ some .dropped := by
  have hput {moved : RunId} {place : Place} (hplaces : Puts c c' moved place)
      (hplace : place ≠ .dropped) : c'.place? id ≠ some .dropped := by
    rw [hplaces id]
    split_ifs
    · exact fun heq => hplace (Option.some.inj heq)
    · exact h id
  cases turn with
  | idle hplaces => exact hplaces id ▸ h id
  | arrive hnew hplaces => exact hput hplaces (by simp)
  | take hbefore hplaces =>
    refine hput hplaces ?_
    cases c.active <;> simp
  | enter hbefore hdone hplaces => exact hput hplaces (by simp)
  | work hbefore hplaces => exact hput hplaces (by simp)
  | finish hbefore hplaces => exact hput hplaces (by simp)
  | drop haway => exact Bool.noConfusion haway

/-- A run that is over and has not been dropped has an outcome. -/
theorem outcome?_of_over (hover : c.Over a) (hkept : c.place? a ≠ some .dropped) :
    ∃ outcome, c.outcome? a = some outcome := by
  obtain ⟨place, hplace, hdone⟩ := hover
  obtain ⟨r, hr, rfl⟩ := Option.map_eq_some_iff.1 hplace
  rw [outcome?, hr, Option.map_some]
  cases hstage : r.stage with
  | finished outcome => exact ⟨outcome, rfl⟩
  | dropped =>
    rw [hplace, hstage] at hkept
    exact absurd rfl hkept
  | _ =>
    rw [hstage] at hdone
    exact Bool.noConfusion hdone

/-- Of all runs, at most one is on its way. -/
theorem InLine.eq_of_within (hline : InLine c) (hnumbered : Numbered c) (hr : r ∈ c.runs)
    (hs : s ∈ c.runs) (hwithin : r.stage.place.isWithin = true)
    (hwithin' : s.stage.place.isWithin = true) : r = s := by
  have hfound := hnumbered.run?_of_mem hr
  have hfound' := hnumbered.run?_of_mem hs
  have hplace := place?_of_run? hfound
  have hplace' := place?_of_run? hfound'
  obtain ⟨hstarted, hlive⟩ := Place.of_isWithin hwithin
  obtain ⟨hstarted', hlive'⟩ := Place.of_isWithin hwithin'
  have hid : r.id = s.id := hline.eq_of_started hplace hplace' hstarted hstarted'
    (not_over hplace hlive) (not_over hplace' hlive')
  rw [hid, hfound'] at hfound
  exact (Option.some.inj hfound).symm

/-! ### Runs that are driven to their ends -/

/-- While no caller walks away, at most one run is on its way.  A run behind one that lives has done
nothing but take the slot, and has no connection to send over.  Whatever else a run does, everyone
ahead of it has closed the connection, stopped the debuggee and ended before. -/
theorem one_run_at_a_time (settings : EngineSettings) (events : List Event)
    (hdriven : ∀ id, Event.drop id ∉ events) :
    let c := (start settings).run events
    (∀ r ∈ c.runs, ∀ s ∈ c.runs,
      r.stage.place.isWithin = true → s.stage.place.isWithin = true → r = s) ∧
    (∀ r ∈ c.runs, ∀ a, c.Ahead a r.id → c.outcome? a = none →
      c.actsOf r.id = [.takesSlot] ∧ r.stage.connection? = none) ∧
    ∀ before id act after, c.history = before ++ (id, act) :: after → act ≠ .takesSlot →
      ∀ a, c.Ahead a id → WoundUp (actsIn before a) ∧ actsIn ((id, act) :: after) a = [] := by
  intro c
  have hinvariant : Numbered c ∧ (InLine c ∧ Chronicle c) ∧ ∀ id, c.place? id ≠ some .dropped :=
    run_induction_of_orderly
      (P := fun c => (InLine c ∧ Chronicle c) ∧ ∀ id, c.place? id ≠ some .dropped)
      (fun _ _ (turn : Turn false _ _) h =>
        ⟨⟨turn.inLine h.1.1, turn.chronicle h.1.1 h.1.2⟩, turn.not_dropped h.2⟩)
      (fun id hmem => absurd hmem (hdriven id)) (areOrderly_of_no_drop hdriven _)
      (numbered_start settings)
      ⟨⟨.start settings, .start settings⟩, fun _ => by simp [start, place?, run?]⟩
  clear_value c
  obtain ⟨hnumbered, ⟨hline, hchronicle⟩, hkept⟩ := hinvariant
  refine ⟨fun r hr s hs => hline.eq_of_within hnumbered hr hs, fun r hr a ha hlive => ?_,
    fun before id act after hsplit hact a ha => ?_⟩
  · have hplace := place?_of_run? (hnumbered.run?_of_mem hr)
    have hdiary := hchronicle.diary r.id _ hplace
    cases hwaiting : r.stage.place with
    | waiting previous =>
      rw [hwaiting] at hdiary
      exact ⟨hdiary.of_waiting, Stage.connection?_of_waiting hwaiting⟩
    | arriving =>
      exact absurd ha.mem_right (hline.not_mem_of_arriving (hwaiting ▸ hplace))
    | within _ _ | finished | dropped =>
      -- A run that has started has only runs ahead of it that are over.
      have hover := hline.started r.id _ hplace (by rw [hwaiting]; rfl) a ha
      obtain ⟨outcome, houtcome⟩ := outcome?_of_over hover (hkept a)
      rw [hlive] at houtcome
      cases houtcome
  · have hends := mem_actsIn.2 (hchronicle.order before id act after hsplit hact a ha)
    obtain ⟨place, hplace, -⟩ := (hline.arrived a).1 ha.mem_left
    have hdiary := hchronicle.diary a place hplace
    rw [actsOf, hsplit, actsIn_append] at hdiary
    have hrest := hdiary.of_ends hends
    rw [hrest, List.append_nil] at hdiary
    refine ⟨?_, hrest⟩
    rcases hdiary.place_of_ends hends with rfl | rfl
    · exact hdiary.woundUp
    · exact absurd hplace (hkept a)

/-- A request for the samples. -/
def sampleRequest : TraceRequest := ⟨⟨[]⟩, ⟨[]⟩, ⟨[]⟩, 0⟩

/-- The first run is on its way with a connection and a debuggee. -/
def sampleFirst : List Event :=
  [.call sampleRequest, .poll 1 none, .poll 1 (some (.parsed (.ok ⟨.other "Program" none []⟩))),
    .poll 1 (some (.resolved ⟨[]⟩)), .poll 1 (some (.launched (.ok (.attached "ws://first")))),
    .poll 1 (some (.connected (.ok ())))]

/-- Two more runs come.  The first run is superseded by the second, and the second by the third
before it has started. -/
def sampleChain : List Event :=
  sampleFirst ++ [.call sampleRequest, .poll 2 none, .poll 2 none, .call sampleRequest,
    .poll 3 none, .poll 3 none, .poll 1 none, .poll 1 (some .closed), .poll 1 (some .stopped),
    .poll 2 none, .poll 2 none, .poll 3 none, .poll 3 none]

theorem sampleChain_history : ((start .default).run sampleChain).history =
    [(1, .takesSlot), (1, .parses), (1, .launches ⟨⟨[]⟩, ⟨[]⟩⟩), (1, .owns "ws://first"),
      (1, .connects "ws://first"), (1, .opens), (2, .takesSlot), (3, .takesSlot), (1, .closes),
      (1, .stops false), (1, .ends), (2, .ends)] ++ (3, .parses) :: [] := by
  rfl

theorem one_run_at_a_time_sample :
    (∀ id, Event.drop id ∉ sampleChain) ∧
    ((start .default).run sampleChain).Ahead 1 3 ∧ ((start .default).run sampleChain).Ahead 2 3 ∧
    ∃ before after, ((start .default).run sampleChain).history =
      before ++ (3, .parses) :: after ∧ WoundUp (actsIn before 1) ∧ WoundUp (actsIn before 2) := by
  have hdriven : ∀ id, Event.drop id ∉ sampleChain := by simp [sampleChain, sampleFirst]
  have hahead (a : RunId) (ha : a ∈ [1, 2]) : ((start .default).run sampleChain).Ahead a 3 := by
    rw [Ahead, takers, sampleChain_history]
    revert a
    decide
  have h := (one_run_at_a_time .default sampleChain hdriven).2.2 _ _ _ _ sampleChain_history
    (by simp)
  exact ⟨hdriven, hahead 1 (by simp), hahead 2 (by simp), _, _, sampleChain_history,
    (h 1 (hahead 1 (by simp))).1, (h 2 (hahead 2 (by simp))).1⟩

/-! ### Callers who walk away -/

/-- As long as no caller leaves the line while the run ahead lives, the slot is held whenever a run
that has begun is not over.  A run that finds the slot free starts at once, with no other run on its
way: all others have not begun or are over. -/
theorem slot_held_while_live (settings : EngineSettings) (events : List Event)
    (horderly : (start settings).areOrderly events = true) :
    let c := (start settings).run events
    (∀ r ∈ c.runs, r.stage ≠ .arriving → r.stage.isDone = false → c.isActive = true) ∧
    (∀ r ∈ c.runs, r.stage = .arriving → c.isActive = false → ∀ answer,
      (c.poll r.id answer).place? r.id = some (.within false false) ∧
      ∀ s ∈ c.runs, s.stage = .arriving ∨ s.stage.isDone = true) ∧
    ∀ r ∈ c.runs, ∀ s ∈ c.runs,
      r.stage.place.isWithin = true → s.stage.place.isWithin = true → r = s := by
  intro c
  obtain ⟨hnumbered, hline⟩ : Numbered c ∧ InLine c := inLine_run horderly
  clear_value c
  have hheld (r : Run) (hr : r ∈ c.runs) (hbegun : r.stage ≠ .arriving)
      (hlive : r.stage.isDone = false) : c.isActive = true := by
    have hplace := place?_of_run? (hnumbered.run?_of_mem hr)
    rw [isActive, Option.isSome_iff_ne_none]
    intro hfree
    have hmem : r.id ∈ c.takers := by
      refine (hline.arrived r.id).2 ⟨_, hplace, fun harriving => hbegun ?_⟩
      cases hstage : r.stage <;> rw [hstage] at harriving <;> first | rfl | cases harriving
    exact not_over hplace (by rw [Stage.isDone_place, hlive]) (hline.free hfree _ hmem)
  refine ⟨hheld, fun r hr harriving hfree answer => ⟨?_, fun s hs => ?_⟩,
    fun r hr s hs => hline.eq_of_within hnumbered hr hs⟩
  · have hfound := hnumbered.run?_of_mem hr
    have hactive : c.active = none := Option.isNone_iff_eq_none.1 (by simpa [isActive] using hfree)
    rw [poll, hfound]
    simp only [pollRun, harriving, pollArriving, hactive]
    exact (puts_moveTo (c := { c with active := some r.id }.note r.id .takesSlot) hfound
      (.parsing false)).self
  · by_contra hs'
    obtain ⟨hbegun, hlive⟩ := not_or.1 hs'
    exact Bool.noConfusion (hfree.symm.trans (hheld s hs hbegun (Bool.eq_false_iff.2 hlive)))

/-- The second run waits for the first one and is dropped after that one is over. -/
def sampleLeft : List Event :=
  sampleFirst ++ [.call sampleRequest, .poll 2 none, .poll 2 none, .poll 1 none,
    .poll 1 (some .closed), .poll 1 (some .stopped), .drop 2, .call sampleRequest]

theorem slot_held_while_live_sample :
    (start .default).areOrderly sampleLeft = true ∧
    ((start .default).run sampleLeft).isActive = false ∧
    (((start .default).run sampleLeft).poll 3 none).place? 3 = some (.within false false) ∧
    ∀ s ∈ ((start .default).run sampleLeft).runs, s.stage = .arriving ∨ s.stage.isDone = true := by
  have horderly : (start .default).areOrderly sampleLeft = true := by rfl
  have hfree : ((start .default).run sampleLeft).isActive = false := by rfl
  have hmem : (⟨3, sampleRequest, false, .arriving⟩ : Run) ∈
      ((start .default).run sampleLeft).runs :=
    List.mem_append_right _ List.mem_cons_self
  exact ⟨horderly, hfree,
    (slot_held_while_live .default sampleLeft horderly).2.1 _ hmem rfl hfree none⟩

/-- The second run is dropped while the first one, which has been told to end, still lives. -/
def sampleForgotten : List Event :=
  sampleFirst ++ [.call sampleRequest, .poll 2 none, .poll 2 none, .drop 2]

/-- A caller who leaves the line too early frees the slot while the first run still has its
connection and its debuggee.  A third run then starts at once, so two runs are on their way. -/
theorem slot_forgets_live_run :
    ((start .default).run sampleForgotten).place? 1 = some (.within true true) ∧
    ((start .default).run sampleForgotten).isActive = false ∧
    ((start .default).run (sampleForgotten ++ [.call sampleRequest, .poll 3 none])).place? 1 =
      some (.within true true) ∧
    ((start .default).run (sampleForgotten ++ [.call sampleRequest, .poll 3 none])).place? 3 =
      some (.within false false) :=
  ⟨rfl, rfl, rfl, rfl⟩

end Coordinator

end ValueTrace
