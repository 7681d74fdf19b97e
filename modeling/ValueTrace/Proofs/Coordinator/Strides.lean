import Mathlib.Tactic.SplitIfs
import ValueTrace.Coordinator.Basic

/-!
# The strides of a run

When a run is polled it stays where it is or takes one of a few strides, each of which leads from
one stage to another and is told by what the run does on it.  A cancelled run that reaches a wait it
would be woken from takes the way out, whatever answer there is.

## Main definitions

* `SameNumbers` : no run came or went.
* `Stride` : where a run goes when it is polled, what it does, and what becomes of the slot.
* `Carries` : how this changes the coordinator.

## Main results

* `Coordinator.poll_cases` : a poll is a stride or nothing.
* `Coordinator.drop_cases` : what it is to walk away.
-/

namespace ValueTrace

namespace Coordinator

open Inspector (Connection)
open Stepping (Engine)

variable {c c' : Coordinator} {id : RunId} {r : Run} {stage : Stage} {acts : List Act}
variable {slot : Option RunId}

/-! ### How runs are changed -/

theorem id_of_run? (h : c.run? id = some r) : r.id = id := by
  simpa using List.find?_some h

/-- The runs that are there are told by the numbers. -/
theorem run?_eq_none_iff : c.run? id = none ↔ id ∉ c.runs.map Run.id := by
  simp [run?]

/-- A change that keeps the numbers changes the run with its number alone. -/
theorem run?_updateRun {f : Run → Run} (hf : ∀ r, (f r).id = r.id) (other : RunId) :
    (c.updateRun id f).run? other =
      (c.run? other).map fun r => if r.id = id then f r else r := by
  have hid (r : Run) : (if r.id = id then f r else r).id = r.id := by
    split_ifs
    · exact hf r
    · rfl
  rw [run?, run?, updateRun, List.find?_map]
  congr 2
  funext r
  exact congrArg (decide <| · = other) (hid r)

theorem run?_moveTo (h : c.run? id = some r) (target : RunId) (stage : Stage) :
    (c.moveTo target stage).run? id =
      some { r with stage := if id = target then stage else r.stage } := by
  rw [moveTo, run?_updateRun (f := fun r => { r with stage }) fun _ => rfl, h, Option.map_some]
  by_cases hid : id = target
  · rw [if_pos ((id_of_run? h).trans hid), if_pos hid]
  · rw [if_neg fun heq => hid ((id_of_run? h).symm.trans heq), if_neg hid]

theorem run?_cancel (h : c.run? id = some r) (target : RunId) :
    ∃ cancelled, (r.cancelled = true → cancelled = true) ∧
      (c.cancel target).run? id = some { r with cancelled } := by
  rw [cancel, run?_updateRun (f := fun r => { r with cancelled := true }) fun _ => rfl, h,
    Option.map_some]
  split
  · exact ⟨true, fun _ => rfl, rfl⟩
  · exact ⟨r.cancelled, fun h => h, rfl⟩

/-! ### Numbers -/

/-- Two coordinators with the same numbers. -/
def SameNumbers (c c' : Coordinator) : Prop :=
  c'.runs.map Run.id = c.runs.map Run.id ∧ c'.lastRun = c.lastRun

theorem SameNumbers.refl (c : Coordinator) : SameNumbers c c := ⟨rfl, rfl⟩

theorem SameNumbers.trans {c'' : Coordinator} (h : SameNumbers c c') (h' : SameNumbers c' c'') :
    SameNumbers c c'' :=
  ⟨h'.1.trans h.1, h'.2.trans h.2⟩

theorem SameNumbers.run?_eq_none (hsame : SameNumbers c c') (h : c.run? id = none) :
    c'.run? id = none := by
  rw [run?_eq_none_iff, hsame.1]
  exact run?_eq_none_iff.1 h

theorem sameNumbers_updateRun (c : Coordinator) (id : RunId) {f : Run → Run}
    (hf : ∀ r, (f r).id = r.id) : SameNumbers c (c.updateRun id f) := by
  refine ⟨?_, rfl⟩
  rw [updateRun, List.map_map]
  refine List.map_congr_left fun r _ => ?_
  rw [Function.comp_apply]
  split_ifs
  · exact hf r
  · rfl

theorem sameNumbers_moveTo (c : Coordinator) (id : RunId) (stage : Stage) :
    SameNumbers c (c.moveTo id stage) :=
  sameNumbers_updateRun c id fun _ => rfl

/-! ### Notes -/

/-- Notes what a run does, in order. -/
def noteAll (c : Coordinator) (id : RunId) (acts : List Act) : Coordinator :=
  { c with history := c.history ++ acts.map (id, ·) }

theorem noteAll_nil (c : Coordinator) (id : RunId) : c.noteAll id [] = c := by
  simp [noteAll]

theorem noteAll_note (c : Coordinator) (id : RunId) (acts : List Act) (act : Act) :
    (c.noteAll id acts).note id act = c.noteAll id (acts ++ [act]) := by
  simp [noteAll, note]

/-- What a run asks for at a wait, unless it has asked before. -/
def asked (started : Bool) (act : Act) : List Act := if started then [] else [act]

/-- What is asked for at most once. -/
theorem asked_eq (c : Coordinator) (id : RunId) (started : Bool) (act : Act) :
    (if started then c else c.note id act) = c.noteAll id (asked started act) := by
  cases started with
  | true => exact (noteAll_nil c id).symm
  | false => rfl

/-- The slot after a run is over: free, if it was still its own. -/
def activeWithout (c : Coordinator) (id : RunId) : Option RunId :=
  if c.active = some id then none else c.active

/-! ### Strides -/

/-- Where a run goes when it is polled, what it does, and what becomes of the slot. -/
inductive Stride (c : Coordinator) (r : Run) : Stage → List Act → Option RunId → Prop
  /-- A run takes the slot, and has another run to wait for. -/
  | take {previous} (hactive : c.active = some previous) (hstage : r.stage = .arriving) :
      Stride c r (.superseding previous) [.takesSlot] (some r.id)
  /-- A run takes the free slot. -/
  | takeFree (hactive : c.active = none) (hstage : r.stage = .arriving) :
      Stride c r (.parsing false) [.takesSlot] (some r.id)
  | queue {previous} (hstage : r.stage = .superseding previous) :
      Stride c r (.queued previous) [] c.active
  | enter {previous} (hdone : c.isDone previous = true) (hstage : r.stage = .queued previous) :
      Stride c r (.parsing false) [] c.active
  /-- A cancelled run has nothing to take down yet. -/
  | quitParsing {started} (hcancelled : r.cancelled = true) (hstage : r.stage = .parsing started) :
      Stride c r (.finished (.error .superseded)) [.ends] (c.activeWithout r.id)
  | quitLaunching {program session started} (hcancelled : r.cancelled = true)
      (hstage : r.stage = .launching program session started) :
      Stride c r (.finished (.error .superseded)) [.ends] (c.activeWithout r.id)
  /-- A cancelled run has a debuggee to take down. -/
  | retreat {program session debuggee started} (hcancelled : r.cancelled = true)
      (hstage : r.stage = .connecting program session debuggee started) :
      Stride c r (.stopping debuggee (.error .superseded)) [] c.active
  /-- A cancelled run abandons its engine. -/
  | interrupt {engine debuggee} (hcancelled : r.cancelled = true)
      (hstage : r.stage = .stepping engine debuggee false) :
      Stride c r (.closing engine.abandon.connection debuggee (.error .superseded)) [] c.active
  /-- A cancelled run settles no longer. -/
  | unsettle {engine debuggee pauses} (hcancelled : r.cancelled = true)
      (hstage : r.stage = .settling engine debuggee pauses)
      (hdelay : c.settings.settleDelay.isZero = false) :
      Stride c r (.closing engine.connection debuggee (.error .superseded)) [] c.active
  | parse {started} (hcancelled : r.cancelled = false) (hstage : r.stage = .parsing started) :
      Stride c r (.parsing true) (asked started .parses) c.active
  | parsed {started program} (hcancelled : r.cancelled = false)
      (hstage : r.stage = .parsing started) :
      Stride c r (.resolving program) (asked started .parses) c.active
  /-- The source has a syntax error. -/
  | reject {started} (hcancelled : r.cancelled = false) (hstage : r.stage = .parsing started) :
      Stride c r (.finished (.ok .empty)) (asked started .parses ++ [.ends]) (c.activeWithout r.id)
  | unparsed {started error} (hcancelled : r.cancelled = false)
      (hstage : r.stage = .parsing started) :
      Stride c r (.finished (.error (.parser error))) (asked started .parses ++ [.ends])
        (c.activeWithout r.id)
  | resolve {program session} (hstage : r.stage = .resolving program) :
      Stride c r (.launching program session false) [] c.active
  | launch {program session started} (hcancelled : r.cancelled = false)
      (hstage : r.stage = .launching program session started) :
      Stride c r (.launching program session true) (asked started (.launches r.launchSpec)) c.active
  | launched {program session started} {debuggee : Debuggee} (hcancelled : r.cancelled = false)
      (hstage : r.stage = .launching program session started) :
      Stride c r (.connecting program session debuggee false)
        (asked started (.launches r.launchSpec) ++ [.owns debuggee.endpoint]) c.active
  | unlaunched {program session started error} (hcancelled : r.cancelled = false)
      (hstage : r.stage = .launching program session started) :
      Stride c r (.finished (.error (.launch error)))
        (asked started (.launches r.launchSpec) ++ [.ends]) (c.activeWithout r.id)
  | connect {program session debuggee started} (hcancelled : r.cancelled = false)
      (hstage : r.stage = .connecting program session debuggee started) :
      Stride c r (.connecting program session debuggee true)
        (asked started (.connects debuggee.endpoint)) c.active
  | connected {program session debuggee started engine} (hcancelled : r.cancelled = false)
      (hstage : r.stage = .connecting program session debuggee started) :
      Stride c r (.stepping engine debuggee false)
        (asked started (.connects debuggee.endpoint) ++ [.opens]) c.active
  | unconnected {program session debuggee started error} (hcancelled : r.cancelled = false)
      (hstage : r.stage = .connecting program session debuggee started) :
      Stride c r (.stopping debuggee (.error (.transport error)))
        (asked started (.connects debuggee.endpoint)) c.active
  | step {engine engine' debuggee awake awake'} (hheeded : (r.cancelled && !awake) = false)
      (hstage : r.stage = .stepping engine debuggee awake) :
      Stride c r (.stepping engine' debuggee awake') [] c.active
  | stepped {engine engine' debuggee awake pauses} (hheeded : (r.cancelled && !awake) = false)
      (hstage : r.stage = .stepping engine debuggee awake) :
      Stride c r (.settling engine' debuggee pauses) [] c.active
  | failed {engine connection debuggee awake error} (hheeded : (r.cancelled && !awake) = false)
      (hstage : r.stage = .stepping engine debuggee awake) :
      Stride c r (.closing connection debuggee (.error error)) [] c.active
  | settled {engine debuggee pauses trace}
      (hstage : r.stage = .settling engine debuggee pauses)
      (hheeded : c.settings.settleDelay.isZero = true ∨ r.cancelled = false) :
      Stride c r (.closing engine.connection debuggee (.ok trace)) [] c.active
  | closed {connection debuggee outcome} (hstage : r.stage = .closing connection debuggee outcome) :
      Stride c r (.stopping debuggee outcome) [.closes] c.active
  | stopped {debuggee outcome} (hstage : r.stage = .stopping debuggee outcome) :
      Stride c r (.finished outcome) [.stops (hasResult outcome), .ends] (c.activeWithout r.id)

/-! ### How a stride is carried out -/

/-- A run comes to a stage, does something meanwhile, and leaves the slot as it is now.  The other
runs stay in their stages, but may be cancelled. -/
structure Carries (c c' : Coordinator) (id : RunId) (stage : Stage) (acts : List Act)
    (slot : Option RunId) : Prop where
  runs : ∀ other r, c.run? other = some r → ∃ cancelled, (r.cancelled = true → cancelled = true) ∧
    c'.run? other = some { r with cancelled, stage := if other = id then stage else r.stage }
  numbers : SameNumbers c c'
  history : c'.history = c.history ++ acts.map (id, ·)
  active : c'.active = slot
  settings : c'.settings = c.settings

theorem carries_moveTo (c : Coordinator) (id : RunId) (stage : Stage) (acts : List Act) :
    Carries c ((c.noteAll id acts).moveTo id stage) id stage acts c.active :=
  ⟨fun _ r h => ⟨r.cancelled, fun h => h, run?_moveTo (c := c.noteAll id acts) h id stage⟩,
    sameNumbers_moveTo _ id stage, rfl, rfl, rfl⟩

theorem carries_leave (c : Coordinator) (id : RunId) (stage : Stage) (acts : List Act) :
    Carries c ((c.noteAll id acts).leave id stage) id stage (acts ++ [.ends])
      (c.activeWithout id) := by
  let freed := { c.noteAll id acts with active := (c.noteAll id acts).activeWithout id }
  refine ⟨fun _ r h => ⟨r.cancelled, fun h => h, run?_moveTo (c := freed) h id _⟩,
    sameNumbers_moveTo _ id _, ?_, rfl, rfl⟩
  · simp [leave, note, moveTo, updateRun, noteAll]

/-- A run that has nothing to note. -/
theorem carries_move (c : Coordinator) (id : RunId) (stage : Stage) :
    Carries c (c.moveTo id stage) id stage [] c.active := by
  have h := carries_moveTo c id stage []
  rwa [noteAll_nil] at h

/-- A run that does nothing more. -/
theorem carries_quit (c : Coordinator) (id : RunId) (stage : Stage) :
    Carries c (c.leave id stage) id stage [.ends] (c.activeWithout id) := by
  have h := carries_leave c id stage []
  rwa [noteAll_nil] at h

theorem carries_take (c : Coordinator) (id : RunId) (stage : Stage) :
    Carries c (({ c with active := some id }.note id .takesSlot).moveTo id stage) id stage
      [.takesSlot] (some id) := by
  obtain ⟨hruns, hnumbers, hhistory, hactive, hsettings⟩ :=
    carries_moveTo { c with active := some id } id stage [.takesSlot]
  exact ⟨hruns, hnumbers, hhistory, hactive, hsettings⟩

/-- A run cancels another one while it moves. -/
theorem carries_supersede (c : Coordinator) (id previous : RunId) :
    Carries c ((c.cancel previous).moveTo id (.queued previous)) id (.queued previous) []
      c.active := by
  have hnumbers : SameNumbers c (c.cancel previous) :=
    sameNumbers_updateRun c previous (f := fun r => { r with cancelled := true }) fun _ => rfl
  refine ⟨fun other r h => ?_, hnumbers.trans (sameNumbers_moveTo _ id _),
    (List.append_nil _).symm, rfl, rfl⟩
  obtain ⟨cancelled, hcancelled, hrun⟩ := run?_cancel h previous
  exact ⟨cancelled, hcancelled, run?_moveTo hrun id _⟩

/-! ### Polls -/

/-- A poll changes nothing, or it is a stride of its run. -/
def IsStride (c c' : Coordinator) (r : Run) : Prop :=
  c' = c ∨ ∃ stage acts slot, Stride c r stage acts slot ∧ Carries c c' r.id stage acts slot

theorem stride_pollArriving (hstage : r.stage = .arriving) :
    IsStride c (c.pollArriving r.id) r := by
  rw [pollArriving]
  cases hactive : c.active with
  | none => exact Or.inr ⟨_, _, _, .takeFree hactive hstage, carries_take c r.id _⟩
  | some previous => exact Or.inr ⟨_, _, _, .take hactive hstage, carries_take c r.id _⟩

theorem stride_pollParsing {started : Bool} (hstage : r.stage = .parsing started)
    (answer : Option Answer) : IsStride c (c.pollParsing r started answer) r := by
  simp only [pollParsing, asked_eq]
  split
  · rename_i hcancelled
    exact Or.inr ⟨_, _, _, .quitParsing hcancelled hstage, carries_quit c r.id _⟩
  · rename_i hcancelled
    rw [Bool.not_eq_true] at hcancelled
    split
    · exact Or.inr ⟨_, _, _, .parsed hcancelled hstage, carries_moveTo c r.id _ _⟩
    · exact Or.inr ⟨_, _, _, .reject hcancelled hstage, carries_leave c r.id _ _⟩
    · exact Or.inr ⟨_, _, _, .unparsed hcancelled hstage, carries_leave c r.id _ _⟩
    · exact Or.inr ⟨_, _, _, .parse hcancelled hstage, carries_moveTo c r.id _ _⟩

theorem stride_pollLaunching {program : Program} {session : Session} {started : Bool}
    (hstage : r.stage = .launching program session started) (answer : Option Answer) :
    IsStride c (c.pollLaunching r program session started answer) r := by
  simp only [pollLaunching, asked_eq]
  split
  · rename_i hcancelled
    exact Or.inr ⟨_, _, _, .quitLaunching hcancelled hstage, carries_quit c r.id _⟩
  · rename_i hcancelled
    rw [Bool.not_eq_true] at hcancelled
    split
    · rw [noteAll_note]
      exact Or.inr ⟨_, _, _, .launched hcancelled hstage, carries_moveTo c r.id _ _⟩
    · exact Or.inr ⟨_, _, _, .unlaunched hcancelled hstage, carries_leave c r.id _ _⟩
    · exact Or.inr ⟨_, _, _, .launch hcancelled hstage, carries_moveTo c r.id _ _⟩

theorem stride_pollConnecting {program : Program} {session : Session} {debuggee : Debuggee}
    {started : Bool} (hstage : r.stage = .connecting program session debuggee started)
    (answer : Option Answer) :
    IsStride c (c.pollConnecting r program session debuggee started answer) r := by
  simp only [pollConnecting, asked_eq]
  split
  · rename_i hcancelled
    exact Or.inr ⟨_, _, _, .retreat hcancelled hstage, carries_move c r.id _⟩
  · rename_i hcancelled
    rw [Bool.not_eq_true] at hcancelled
    split
    · rw [noteAll_note]
      exact Or.inr ⟨_, _, _, .connected hcancelled hstage, carries_moveTo c r.id _ _⟩
    · exact Or.inr ⟨_, _, _, .unconnected hcancelled hstage, carries_moveTo c r.id _ _⟩
    · exact Or.inr ⟨_, _, _, .connect hcancelled hstage, carries_moveTo c r.id _ _⟩

theorem stride_pollStepping {engine : Engine} {debuggee : Debuggee} {awake : Bool}
    (hstage : r.stage = .stepping engine debuggee awake) (answer : Option Answer) :
    IsStride c (c.pollStepping r engine debuggee awake answer) r := by
  simp only [pollStepping]
  split
  · rename_i hheeded
    obtain ⟨hcancelled, rfl⟩ : r.cancelled = true ∧ awake = false := by simpa using hheeded
    exact Or.inr ⟨_, _, _, .interrupt hcancelled hstage, carries_move c r.id _⟩
  · rename_i hheeded
    rw [Bool.not_eq_true] at hheeded
    split
    · exact Or.inr ⟨_, _, _, .stepped hheeded hstage, carries_move c r.id _⟩
    · exact Or.inr ⟨_, _, _, .failed hheeded hstage, carries_move c r.id _⟩
    · exact Or.inr ⟨_, _, _, .step hheeded hstage, carries_move c r.id _⟩

theorem stride_pollSettling {engine : Engine} {debuggee : Debuggee} {pauses : Nat}
    (hstage : r.stage = .settling engine debuggee pauses) (answer : Option Answer) :
    IsStride c (c.pollSettling r engine debuggee pauses answer) r := by
  simp only [pollSettling]
  split
  · rename_i hdelay
    exact Or.inr ⟨_, _, _, .settled hstage (Or.inl hdelay), carries_move c r.id _⟩
  · rename_i hdelay
    rw [Bool.not_eq_true] at hdelay
    split
    · rename_i hcancelled
      exact Or.inr ⟨_, _, _, .unsettle hcancelled hstage hdelay, carries_move c r.id _⟩
    · rename_i hcancelled
      have hsettled : Stride c r (.closing engine.connection debuggee
          (.ok (TraceResult.ofSession engine.session pauses))) [] c.active :=
        .settled hstage (Or.inr (Bool.not_eq_true _ ▸ hcancelled))
      split
      · exact Or.inr ⟨_, _, _, hsettled, carries_move c r.id _⟩
      · split
        · exact Or.inr ⟨_, _, _, hsettled, carries_move c r.id _⟩
        · exact Or.inl rfl

theorem stride_pollClosing {connection : Connection} {debuggee : Debuggee} {outcome : Outcome}
    (hstage : r.stage = .closing connection debuggee outcome) (answer : Option Answer) :
    IsStride c (c.pollClosing r connection debuggee outcome answer) r := by
  have hclosed : IsStride c ((c.note r.id .closes).moveTo r.id (.stopping debuggee outcome)) r :=
    Or.inr ⟨_, _, _, .closed hstage, carries_moveTo c r.id _ [.closes]⟩
  simp only [pollClosing]
  split
  · exact hclosed
  · split
    · exact hclosed
    · exact Or.inl rfl

theorem stride_pollStopping {debuggee : Debuggee} {outcome : Outcome}
    (hstage : r.stage = .stopping debuggee outcome) (answer : Option Answer) :
    IsStride c (c.pollStopping r outcome answer) r := by
  unfold pollStopping
  split
  · exact Or.inr ⟨_, _, _, .stopped hstage,
      carries_leave c r.id (.finished outcome) [.stops (hasResult outcome)]⟩
  · exact Or.inl rfl

theorem stride_pollRun (c : Coordinator) (r : Run) (answer : Option Answer) :
    IsStride c (c.pollRun r answer) r := by
  cases hstage : r.stage with
  | arriving => simpa only [pollRun, hstage] using stride_pollArriving hstage
  | superseding previous =>
    simp only [pollRun, hstage]
    exact Or.inr ⟨_, _, _, .queue hstage, carries_supersede c r.id previous⟩
  | queued previous =>
    simp only [pollRun, hstage]
    split
    · rename_i hdone
      exact Or.inr ⟨_, _, _, .enter hdone hstage, carries_move c r.id _⟩
    · exact Or.inl rfl
  | parsing started => simpa only [pollRun, hstage] using stride_pollParsing hstage answer
  | resolving program =>
    simp only [pollRun, hstage, pollResolving]
    split
    · exact Or.inr ⟨_, _, _, .resolve hstage, carries_move c r.id _⟩
    · exact Or.inl rfl
  | launching program session started =>
    simpa only [pollRun, hstage] using stride_pollLaunching hstage answer
  | connecting program session debuggee started =>
    simpa only [pollRun, hstage] using stride_pollConnecting hstage answer
  | stepping engine debuggee awake =>
    simpa only [pollRun, hstage] using stride_pollStepping hstage answer
  | settling engine debuggee pauses =>
    simpa only [pollRun, hstage] using stride_pollSettling hstage answer
  | closing connection debuggee outcome =>
    simpa only [pollRun, hstage] using stride_pollClosing hstage answer
  | stopping debuggee outcome =>
    simpa only [pollRun, hstage] using stride_pollStopping hstage answer
  | finished outcome => exact Or.inl (by simp only [pollRun, hstage])
  | dropped => exact Or.inl (by simp only [pollRun, hstage])

/-- A poll is a stride or nothing. -/
theorem poll_cases (c : Coordinator) (id : RunId) (answer : Option Answer) :
    c.poll id answer = c ∨
      ∃ r stage acts slot, c.run? id = some r ∧ Stride c r stage acts slot ∧
        Carries c (c.poll id answer) id stage acts slot := by
  rw [poll]
  cases h : c.run? id with
  | none => exact Or.inl rfl
  | some r =>
    obtain rfl := id_of_run? h
    rcases stride_pollRun c r answer with hsame | ⟨stage, acts, slot, hstride, hcarries⟩
    · exact Or.inl hsame
    · exact Or.inr ⟨r, stage, acts, slot, rfl, hstride, hcarries⟩

/-- A caller walks away from a run that waits, or nothing happens. -/
theorem drop_cases (c : Coordinator) (id : RunId) :
    c.drop id = c ∨
      ∃ r, c.run? id = some r ∧ r.stage.isSuspended = true ∧
        Carries c (c.drop id) id .dropped [.ends] (c.activeWithout id) := by
  rw [drop]
  cases h : c.run? id with
  | none => exact Or.inl rfl
  | some r =>
    cases hsuspended : r.stage.isSuspended with
    | false => exact Or.inl (by simp only [hsuspended, Bool.false_eq_true, if_false])
    | true =>
      refine Or.inr ⟨r, rfl, hsuspended, ?_⟩
      simp only [hsuspended, if_true]
      exact carries_quit c id .dropped

end Coordinator

end ValueTrace
