import ValueTrace.Proofs.Stepping.Stages

/-!
# The breakpoint and the pauses that count

The engine asks for its breakpoint once, and keeps the number that it gets (`Installation`).  Of the
pauses that it reads, it evaluates expressions at all but possibly the first: that one is skipped if
the settings say so and the breakpoint was not hit (`Judged`).

## Main definitions

* `evaluatedHalts` : the pauses at which expressions are evaluated.
* `Takes` : what these pauses are.
* `Stage.Judges`, `Judged` : what was made of the pauses that were read.
* `Installation` : how far the breakpoint has come.

## Main results

* `Judged.advance`, `Installation.advance` : every advance keeps them.
-/

namespace ValueTrace.Stepping

open Inspector
open Json (Value)

variable {o : Outset} {e e' : Engine} {pauses found : List Pause}

/-! ### Which pauses count -/

/-- The pauses at which expressions are evaluated: all of them, but without the first if the pause
at the start is to be skipped and did not hit the breakpoint. -/
def evaluatedHalts (settings : EngineSettings) (breakpointId : Option String) :
    List PausedEvent → List PausedEvent
  | [] => []
  | first :: rest =>
    if settings.skipEntryPause && !breakpointId.any first.hitBreakpoints.contains then rest
    else first :: rest

/-- At every pause but the first, expressions are evaluated. -/
theorem evaluatedHalts_concat {settings : EngineSettings} {breakpointId : Option String}
    {past : List PausedEvent} (h : past ≠ []) (event : PausedEvent) :
    evaluatedHalts settings breakpointId (past ++ [event]) =
      evaluatedHalts settings breakpointId past ++ [event] := by
  cases past with
  | nil => exact absurd rfl h
  | cons first rest =>
    rw [List.cons_append, evaluatedHalts, evaluatedHalts]
    split <;> rfl

/-- If expressions are evaluated at any pause, they are at the latest. -/
theorem getLast?_evaluatedHalts {settings : EngineSettings} {breakpointId : Option String}
    {halts : List PausedEvent} (h : evaluatedHalts settings breakpointId halts ≠ []) :
    (evaluatedHalts settings breakpointId halts).getLast? = halts.getLast? := by
  cases halts with
  | nil => rfl
  | cons first rest =>
    rw [evaluatedHalts] at h ⊢
    split
    · rename_i hskip
      rw [if_pos hskip] at h
      obtain ⟨halt, others, rfl⟩ := List.exists_cons_of_ne_nil h
      rw [List.getLast?_cons_cons]
    · rfl

/-- Some pauses are those at which expressions are evaluated. -/
def Takes (settings : EngineSettings) (breakpointId : Option String) (halts : List PausedEvent)
    (pauses : List Pause) : Prop :=
  (evaluatedHalts settings breakpointId halts).map Pause.ofEvent? = pauses.map .ok

/-- A pause hits the breakpoints that its notification names. -/
theorem hits_of_ofEvent? {event : PausedEvent} {pause : Pause}
    (h : Pause.ofEvent? event = .ok pause) (breakpointId : Option String) :
    pause.hits breakpointId = breakpointId.any event.hitBreakpoints.contains := by
  rw [Pause.ofEvent?] at h
  split at h
  · obtain rfl := Except.ok.inj h
    cases breakpointId <;> rfl
  · exact absurd h (by simp)

namespace Takes

variable {settings : EngineSettings} {breakpointId : Option String} {past : List PausedEvent}
  {event : PausedEvent} {pause : Pause}

theorem eq_nil (h : Takes settings breakpointId [] pauses) : pauses = [] :=
  List.map_eq_nil_iff.1 h.symm

/-- A first pause that is skipped does not count. -/
theorem skip (hpause : Pause.ofEvent? event = .ok pause)
    (hskip : (settings.skipEntryPause && !pause.hits breakpointId) = true) :
    Takes settings breakpointId [event] [] := by
  rw [hits_of_ofEvent? hpause] at hskip
  rw [Takes, evaluatedHalts, if_pos hskip]
  rfl

/-- A pause that is not skipped counts. -/
theorem concat (h : Takes settings breakpointId past pauses)
    (hpause : Pause.ofEvent? event = .ok pause)
    (hcounts : past = [] → (settings.skipEntryPause && !pause.hits breakpointId) = false) :
    Takes settings breakpointId (past ++ [event]) (pauses ++ [pause]) := by
  have heq : evaluatedHalts settings breakpointId (past ++ [event]) =
      evaluatedHalts settings breakpointId past ++ [event] := by
    by_cases hpast : past = []
    · subst hpast
      have hno := hcounts rfl
      rw [hits_of_ofEvent? hpause] at hno
      exact if_neg (Bool.eq_false_iff.1 hno)
    · exact evaluatedHalts_concat hpast event
  have hbefore : (evaluatedHalts settings breakpointId past).map Pause.ofEvent? =
      pauses.map .ok := h
  rw [Takes, heq, List.map_append, List.map_append, hbefore, List.map_singleton, hpause]
  rfl

end Takes

/-! ### What was made of the pauses -/

/-- What was made of the pauses that were read when a run is in a stage: some of them count, and at
all of those expressions have been evaluated, or are being evaluated, or will be next. -/
def Stage.Judges (stage : Stage) (settings : EngineSettings) (breakpointId : Option String)
    (halts : List PausedEvent) (pauses : List Pause) : Prop :=
  match stage with
  | .setup | .installing _ | .ready => halts = [] ∧ pauses = []
  | .reached first event =>
    ∃ past, halts = past ++ [event] ∧ (first = true ↔ past = []) ∧
      Takes settings breakpointId past pauses
  | .discovering pause => halts ≠ [] ∧ Takes settings breakpointId halts (pauses ++ [pause])
  | .asking .. | .evaluating .. | .between =>
    halts ≠ [] ∧ Takes settings breakpointId halts pauses
  | .ended _ => Takes settings breakpointId halts pauses
  | .lost => True

namespace Stage.Judges

variable {settings : EngineSettings} {breakpointId : Option String} {halts : List PausedEvent}
  {first : Bool} {event : PausedEvent} {pause : Pause}

/-- A pause that is reached is the first one if none has been read. -/
theorem reach
    (h : (if first then Stage.ready else Stage.between).Judges settings breakpointId halts pauses) :
    (Stage.reached first event).Judges settings breakpointId (halts ++ [event]) pauses := by
  cases first with
  | true =>
    obtain ⟨rfl, rfl⟩ := h
    exact ⟨[], rfl, ⟨fun _ => rfl, fun _ => rfl⟩, rfl⟩
  | false =>
    exact ⟨halts, rfl, ⟨fun hno => Bool.noConfusion hno, fun hnil => absurd hnil h.1⟩, h.2⟩

/-- Only the first pause is skipped. -/
theorem skip (h : (Stage.reached first event).Judges settings breakpointId halts pauses)
    (hpause : Pause.ofEvent? event = .ok pause)
    (hskip : (first && settings.skipEntryPause && !pause.hits breakpointId) = true) :
    Stage.between.Judges settings breakpointId halts pauses := by
  obtain ⟨past, rfl, hfirst, htakes⟩ := h
  simp only [Bool.and_eq_true, and_assoc] at hskip
  obtain rfl := hfirst.1 hskip.1
  obtain rfl := htakes.eq_nil
  refine ⟨List.cons_ne_nil _ _, .skip hpause ?_⟩
  rw [Bool.and_eq_true]
  exact hskip.2

/-- A pause that is not skipped counts. -/
theorem take (h : (Stage.reached first event).Judges settings breakpointId halts pauses)
    (hpause : Pause.ofEvent? event = .ok pause)
    (hskip : (first && settings.skipEntryPause && !pause.hits breakpointId) = false) :
    (Stage.discovering pause).Judges settings breakpointId halts pauses := by
  obtain ⟨past, rfl, hfirst, htakes⟩ := h
  refine ⟨List.append_ne_nil_of_right_ne_nil _ (List.cons_ne_nil _ _),
    htakes.concat hpause fun hnil => ?_⟩
  rw [hfirst.2 hnil, Bool.true_and] at hskip
  exact hskip

end Stage.Judges

/-- What the engine has made of the pauses that it has read. -/
def Judged (o : Outset) (e : Engine) (pauses : List Pause) : Prop :=
  e.point.stage.Judges o.settings e.breakpointId e.halts pauses

/-- The stage to which the engine goes on with the expressions at a pause. -/
theorem stage_evaluateNext (e : Engine) (pause : Pause) (expressions : List String) :
    (e.evaluateNext pause expressions).point.stage =
      match expressions with
      | [] => .between
      | expression :: rest => .asking pause expression rest := by
  cases expressions <;> rfl

namespace Judged

/-- Where the record is the same, the judgement of the stage counts. -/
theorem of_sameRecord {stage : Stage} (hsame : SameRecord e e') (hafter : e'.point.stage = stage)
    (h : stage.Judges o.settings e.breakpointId e.halts pauses) : Judged o e' pauses := by
  rw [Judged, hafter, hsame.halts, hsame.breakpointId]
  exact h

/-- To go on with the expressions at a pause changes nothing about the pauses that were read. -/
theorem of_evaluateNext {d : Engine} (hhalts : d.halts = e.halts)
    (hid : d.breakpointId = e.breakpointId)
    (h : Stage.between.Judges o.settings e.breakpointId e.halts pauses) (pause : Pause)
    (expressions : List String) : Judged o (d.evaluateNext pause expressions) pauses := by
  rw [← hhalts, ← hid] at h
  rw [Judged, stage_evaluateNext]
  cases expressions <;> exact h

/-- Every advance keeps what was made of the pauses. -/
theorem advance {since : RequestId} (h : Judged o e pauses) (hw : WorksFor e o)
    (ha : Advance since e e' found) : Judged o e' (pauses ++ found) := by
  cases ha with
  | lose hafter =>
    rw [Judged, hafter]
    trivial
  | stay hstage hsame _ =>
    rw [List.append_nil]
    exact of_sameRecord hsame hstage h
  | inquire hbefore hafter hsame _ _ =>
    rw [Judged, hbefore] at h
    rw [List.append_nil]
    exact of_sameRecord hsame hafter h
  | install hbefore hafter _ _ hsame _ =>
    rw [Judged, hbefore] at h
    rw [List.append_nil]
    exact of_sameRecord hsame hafter h
  | reach hbefore hafter hsame _ =>
    rw [Judged, hbefore] at h
    rw [List.append_nil]
    exact of_sameRecord hsame hafter h.reach
  | skip hbefore hpause hskip hafter hsame _ =>
    rw [Judged, hbefore, ← hw.settings] at h
    rw [List.append_nil]
    exact of_sameRecord hsame hafter (hw.settings ▸ h.skip hpause hskip)
  | take hbefore hpause hskip hafter hsame _ =>
    rw [Judged, hbefore, ← hw.settings] at h
    rw [List.append_nil]
    exact of_sameRecord hsame hafter (hw.settings ▸ h.take hpause hskip)
  | @discover pause hbefore heq =>
    rw [Judged, hbefore] at h
    obtain ⟨session, hdiscover⟩ := e.discover_eq pause
    rw [heq, hdiscover]
    refine of_evaluateNext ?_ ?_ h pause _ <;> rfl
  | ask hbefore hafter hsame _ _ =>
    rw [Judged, hbefore] at h
    rw [List.append_nil]
    exact of_sameRecord hsame hafter h
  | record hbefore _ _ _ heq =>
    rw [Judged, hbefore] at h
    rw [heq, List.append_nil]
    refine of_evaluateNext ?_ ?_ h _ _ <;> rfl
  | finish hbefore hafter hsame _ =>
    rw [List.append_nil]
    refine of_sameRecord hsame hafter ?_
    rcases hbefore with hready | hbetween
    · rw [Judged, hready] at h
      obtain ⟨hhalts, rfl⟩ := h
      rw [hhalts]
      rfl
    · rw [Judged, hbetween] at h
      exact h.2

end Judged

/-! ### The breakpoint -/

/-- The request for the breakpoint of a run. -/
def Outset.breakpointRequest (o : Outset) (call : RequestId) : Request :=
  ⟨call, "Debugger.setBreakpointByUrl",
    some (.object [("lineNumber", .ofNat o.line.toNat), ("url", .string o.target.url),
      ("columnNumber", .ofNat 0)])⟩

/-- The breakpoint was asked for once, and its number is known from the answer. -/
def Installed (o : Outset) (e : Engine) : Prop :=
  ∃ call result breakpoint,
    e.asked o.connection.lastRequest .setBreakpointByUrl = [o.breakpointRequest call] ∧
      e.connection.outcome? call = some (.ok result) ∧
      decodeResult BreakpointResult.decoder Method.setBreakpointByUrl.name result =
        .ok breakpoint ∧
      e.breakpointId = some breakpoint.id

/-- A breakpoint that is installed stays so while no other is asked for and no outcome changes. -/
theorem Installed.of_same (h : Installed o e)
    (hbreakpoints : e'.asked o.connection.lastRequest .setBreakpointByUrl =
      e.asked o.connection.lastRequest .setBreakpointByUrl)
    (hid : e'.breakpointId = e.breakpointId)
    (hkept : ∀ id outcome, e.connection.outcome? id = some outcome →
      e'.connection.outcome? id = some outcome) : Installed o e' := by
  obtain ⟨call, result, breakpoint, hasked, houtcome, hdecode, hbreakpoint⟩ := h
  exact ⟨call, result, breakpoint, hbreakpoints.trans hasked, hkept _ _ houtcome, hdecode,
    hid.trans hbreakpoint⟩

/-- Whether the breakpoint is installed in a stage. -/
def Stage.isInstalled : Stage → Bool
  | .setup | .installing _ | .lost => false
  | _ => true

/-- How far the breakpoint has come. -/
structure Installation (o : Outset) (e : Engine) : Prop where
  unasked : e.point.stage = .setup → e.asked o.connection.lastRequest .setBreakpointByUrl = []
  asked : ∀ call, e.point.stage = .installing call →
    e.asked o.connection.lastRequest .setBreakpointByUrl = [o.breakpointRequest call]
  installed : e.point.stage.isInstalled = true → Installed o e

namespace Installation

theorem of_lost (h : e.point.stage = .lost) : Installation o e := by
  constructor <;> rw [h]
  · exact fun hno => Stage.noConfusion hno
  · exact fun _ hno => Stage.noConfusion hno
  · exact fun hno => Bool.noConfusion hno

theorem of_installed (h : Installed o e) (hstage : e.point.stage.isInstalled = true) :
    Installation o e := by
  refine ⟨fun hno => ?_, fun call hno => ?_, fun _ => h⟩
  · rw [hno] at hstage
    exact Bool.noConfusion hstage
  · rw [hno] at hstage
    exact Bool.noConfusion hstage

/-- Every advance keeps the breakpoint. -/
theorem advance (h : Installation o e) (hw : WorksFor e o)
    (hkept : ∀ id outcome, e.connection.outcome? id = some outcome →
      e'.connection.outcome? id = some outcome)
    (ha : Advance o.connection.lastRequest e e' found) : Installation o e' := by
  -- Once the breakpoint is installed, it is enough that no other is asked for.
  have hlater {stage stage' : Stage} (hbefore : e.point.stage = stage)
      (hafter : e'.point.stage = stage') (hstage : stage.isInstalled = true)
      (hstage' : stage'.isInstalled = true)
      (hbreakpoints : e'.asked o.connection.lastRequest .setBreakpointByUrl =
        e.asked o.connection.lastRequest .setBreakpointByUrl)
      (hid : e'.breakpointId = e.breakpointId) : Installation o e' :=
    of_installed ((h.installed (hbefore ▸ hstage)).of_same hbreakpoints hid hkept)
      (hafter ▸ hstage')
  cases ha with
  | lose hafter => exact of_lost hafter
  | stay hstage hsame hinquiries =>
    refine ⟨fun hs => ?_, fun call hs => ?_, fun hs => ?_⟩
    · exact hinquiries.breakpoints.trans (h.unasked (hstage.symm.trans hs))
    · exact hinquiries.breakpoints.trans (h.asked call (hstage.symm.trans hs))
    · exact (h.installed (hstage ▸ hs)).of_same hinquiries.breakpoints hsame.breakpointId hkept
  | @inquire call hbefore hafter hsame _ hbreakpoints =>
    rw [h.unasked hbefore, List.nil_append, Engine.params, hw.breakpoint] at hbreakpoints
    refine ⟨fun hs => ?_, fun call' hs => ?_, fun hs => ?_⟩
    · exact Stage.noConfusion (hafter.symm.trans hs)
    · obtain rfl := Stage.installing.inj (hafter.symm.trans hs)
      exact hbreakpoints
    · rw [hafter] at hs
      exact Bool.noConfusion hs
  | @install call result breakpoint hbefore hafter houtcome hdecode hsame hinquiries =>
    refine of_installed ⟨call, result, breakpoint, ?_, houtcome, hdecode, hsame.breakpointId⟩ ?_
    · exact hinquiries.breakpoints.trans (h.asked call hbefore)
    · rw [hafter]
      rfl
  | @reach first event hbefore hafter hsame hinquiries =>
    cases first <;>
      exact hlater hbefore hafter rfl rfl hinquiries.breakpoints hsame.breakpointId
  | skip hbefore _ _ hafter hsame hinquiries =>
    exact hlater hbefore hafter rfl rfl hinquiries.breakpoints hsame.breakpointId
  | take hbefore _ _ hafter hsame hinquiries =>
    exact hlater hbefore hafter rfl rfl hinquiries.breakpoints hsame.breakpointId
  | @discover pause hbefore heq =>
    obtain ⟨session, hdiscover⟩ := e.discover_eq pause
    obtain ⟨counted, point, hnext⟩ := Engine.evaluateNext_eq (e.discover pause) pause
      (e.discover pause).session.tracked.expressions
    refine hlater hbefore rfl rfl ?_ ?_ ?_
    · rw [heq, stage_evaluateNext]
      split <;> rfl
    · rw [heq, hnext, hdiscover]
      rfl
    · rw [heq, hnext, hdiscover]
  | ask hbefore hafter hsame _ hbreakpoints =>
    exact hlater hbefore hafter rfl rfl hbreakpoints hsame.breakpointId
  | @record pause expression rest call connection outcome value hbefore _ _ hrequests heq =>
    obtain ⟨counted, point, hnext⟩ := Engine.evaluateNext_eq
      { e with connection, session := e.session.record expression value } pause rest
    refine hlater hbefore rfl rfl ?_ ?_ ?_
    · rw [heq, stage_evaluateNext]
      cases rest <;> rfl
    · rw [heq, hnext, Engine.asked, hrequests, Engine.asked]
    · rw [heq, hnext]
  | finish hbefore hafter hsame hinquiries =>
    rcases hbefore with hready | hbetween
    · exact hlater hready hafter rfl rfl hinquiries.breakpoints hsame.breakpointId
    · exact hlater hbetween hafter rfl rfl hinquiries.breakpoints hsame.breakpointId

end Installation

end ValueTrace.Stepping
