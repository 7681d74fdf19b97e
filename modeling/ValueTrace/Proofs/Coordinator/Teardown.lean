import ValueTrace.Proofs.Coordinator.Cancellation

/-!
# Taking down

Whatever way a run goes, all it has done so far can be told from its stage.  A run that returns has
closed the connection it opened and then stopped the debuggee it was given, and its end comes after
that.  The slot of a run is not free before the end of the run.

## Main definitions

* `Course` : what a run in a stage has done.
* `TornDown` : what a run that returns has done.
* `Releases` : what runs do to the slot.

## Main results

* `Course.change` : whatever happens to a run, its stage tells what it did.
* `Coordinator.tears_down_on_every_way_out` : every run that returns has taken everything down.
-/

namespace ValueTrace

open Coordinator

namespace Coordinator

open Inspector (Connection)
open List (IsPrefix)

/-! ### What a run has done -/

/-- What a run has asked for at a wait, if it has. -/
def told (started : Bool) (act : Act) : List Act := if started then [act] else []

/-- At the end of a wait, what the run waited for was asked for once. -/
@[simp] theorem told_append_asked (started : Bool) (act : Act) (acts : List Act) :
    told started act ++ (asked started act ++ acts) = act :: acts := by
  cases started <;> rfl

@[simp] theorem told_append_asked_self (started : Bool) (act : Act) :
    told started act ++ asked started act = [act] := by
  cases started <;> rfl

/-- All that a run does before it has a debuggee. -/
def alone (spec : LaunchSpec) : List Act := [.takesSlot, .parses, .launches spec]

/-- What a run has done when it has its debuggee. -/
def hosted (spec : LaunchSpec) (debuggee : Debuggee) : List Act :=
  [.takesSlot, .parses, .launches spec, .owns debuggee.endpoint]

/-- What a run has done when it has its connection. -/
def linked (spec : LaunchSpec) (debuggee : Debuggee) : List Act :=
  hosted spec debuggee ++ [.connects debuggee.endpoint, .opens]

/-- What a run in a stage has done. -/
inductive Course (spec : LaunchSpec) : Stage → List Act → Prop
  | arriving : Course spec .arriving []
  | superseding {previous} : Course spec (.superseding previous) [.takesSlot]
  | queued {previous} : Course spec (.queued previous) [.takesSlot]
  | parsing {started} : Course spec (.parsing started) ([.takesSlot] ++ told started .parses)
  | resolving {program} : Course spec (.resolving program) [.takesSlot, .parses]
  | launching {program session started} :
      Course spec (.launching program session started)
        ([.takesSlot, .parses] ++ told started (.launches spec))
  | connecting {program session debuggee started} :
      Course spec (.connecting program session debuggee started)
        (hosted spec debuggee ++ told started (.connects debuggee.endpoint))
  | stepping {engine debuggee awake} :
      Course spec (.stepping engine debuggee awake) (linked spec debuggee)
  | settling {engine debuggee pauses} :
      Course spec (.settling engine debuggee pauses) (linked spec debuggee)
  | closing {connection debuggee outcome} :
      Course spec (.closing connection debuggee outcome) (linked spec debuggee)
  /-- There is no connection. -/
  | retreating {debuggee outcome started} :
      Course spec (.stopping debuggee outcome)
        (hosted spec debuggee ++ told started (.connects debuggee.endpoint))
  | stopping {debuggee outcome} :
      Course spec (.stopping debuggee outcome) (linked spec debuggee ++ [.closes])
  /-- There is no debuggee. -/
  | bare {outcome acts} (hbare : IsPrefix acts (alone spec)) :
      Course spec (.finished outcome) (acts ++ [.ends])
  | stopped {debuggee outcome acts} (h : Course spec (.stopping debuggee outcome) acts) :
      Course spec (.finished outcome) (acts ++ [.stops (hasResult outcome), .ends])
  | dropped {stage acts} (h : Course spec stage acts) (hsuspended : stage.isSuspended = true) :
      Course spec .dropped (acts ++ [.ends])

variable {c c' : Coordinator} {id : RunId} {r r' : Run} {stage : Stage} {acts more : List Act}
variable {settings : EngineSettings} {event : Event} {spec : LaunchSpec} {outcome : Outcome}
variable {slot : Option RunId}

theorem parses_isPrefix_alone (spec : LaunchSpec) :
    IsPrefix [Act.takesSlot, .parses] (alone spec) :=
  ⟨[.launches spec], rfl⟩

/-- What a run has asked for at a wait begins all that it does there. -/
theorem told_isPrefix {acts acts' : List Act} {act : Act} (h : IsPrefix (acts ++ [act]) acts')
    (started : Bool) : IsPrefix (acts ++ told started act) acts' := by
  cases started with
  | true => exact h
  | false =>
    rw [told, if_neg Bool.false_ne_true, List.append_nil]
    exact (List.prefix_append acts [act]).trans h

/-- A stride adds to what the run has done. -/
theorem Course.stride (h : Course r.launchSpec r.stage acts)
    (hstride : Stride c r stage more slot) : Course r.launchSpec stage (acts ++ more) := by
  cases hstride with
  | take _ hstage =>
    rw [hstage] at h
    cases h
    exact .superseding
  | takeFree _ hstage =>
    rw [hstage] at h
    cases h
    exact .parsing
  -- Nothing is done on these strides.
  | queue hstage | enter _ hstage | resolve hstage | step _ hstage | stepped _ hstage
  | failed _ hstage | settled hstage | retreat _ hstage | interrupt _ hstage
  | unsettle _ hstage =>
    rw [hstage] at h
    cases h
    rw [List.append_nil]
    constructor
  | quitParsing _ hstage =>
    rw [hstage] at h
    cases h
    exact .bare (told_isPrefix (parses_isPrefix_alone _) _)
  | quitLaunching _ hstage =>
    rw [hstage] at h
    cases h
    exact .bare (told_isPrefix List.prefix_rfl _)
  | parse _ hstage | parsed _ hstage | launch _ hstage | connect _ hstage =>
    rw [hstage] at h
    cases h
    rw [List.append_assoc, told_append_asked_self]
    constructor
  | reject _ hstage | unparsed _ hstage =>
    rw [hstage] at h
    cases h
    rw [List.append_assoc, told_append_asked]
    exact .bare (parses_isPrefix_alone r.launchSpec)
  | launched _ hstage | connected _ hstage =>
    rw [hstage] at h
    cases h
    rw [List.append_assoc, told_append_asked]
    constructor
  | unlaunched _ hstage =>
    rw [hstage] at h
    cases h
    rw [List.append_assoc, told_append_asked]
    exact .bare (List.prefix_refl (alone r.launchSpec))
  | unconnected _ hstage =>
    rw [hstage] at h
    cases h
    rw [List.append_assoc, told_append_asked_self]
    change Course _ _ (hosted _ _ ++ told true _)
    exact .retreating
  | closed hstage =>
    rw [hstage] at h
    cases h
    exact .stopping
  | stopped hstage =>
    rw [hstage] at h
    exact .stopped h

/-- What happens to a connection does not matter for what the run has done. -/
theorem Course.onConnection (h : Course spec r.stage acts) (f : Connection → Connection) :
    Course spec (onConnection f r).stage acts := by
  generalize hstage : r.stage = stage at h
  cases h <;> rw [Coordinator.onConnection, hstage] <;>
    first | constructor | (rw [hstage]; constructor <;> assumption)

/-- Whatever happens to a run, its stage tells what it did. -/
theorem Course.change (h : Course r.launchSpec r.stage acts)
    (hchange : Change c event r r' more) : Course r'.launchSpec r'.stage (acts ++ more) := by
  cases hchange with
  | stay =>
    rw [List.append_nil]
    exact h
  | hear f =>
    rw [List.append_nil, show (Coordinator.onConnection f r).launchSpec = r.launchSpec from ?_]
    · exact h.onConnection f
    · rw [Coordinator.onConnection]
      split <;> rfl
  | stride _ _ hstride => exact h.stride hstride
  | drop _ _ hsuspended => exact .dropped h hsuspended

/-- What may happen to the slot: its run gives it back at its end, and any other run that ends
leaves it alone. -/
structure Releases (c c' : Coordinator) : Prop where
  freed : ∀ id, c.active = some id → c'.active = none → c'.isDone id = true
  ended : ∀ id, c.isDone id = false → c'.isDone id = true → c'.active = c.activeWithout id

/-- Where no run ends, the slot is not freed. -/
theorem Releases.of_kept (hactive : c.active.isSome = true → c'.active.isSome = true)
    (hdone : ∀ id, c.isDone id = false → c'.isDone id = false) : Releases c c' where
  freed id hheld hfree := by
    rw [hheld, hfree] at hactive
    exact Bool.noConfusion (hactive rfl)
  ended id hlive hover := Bool.noConfusion ((hdone id hlive).symm.trans hover)

theorem Puts.isDone_self {place : Place} (hplaces : Puts c c' id place) :
    c'.isDone id = place.isDone := by
  rw [isDone_eq, hplaces.self]
  rfl

theorem Puts.isDone_other {place : Place} (hplaces : Puts c c' id place) {other : RunId}
    (hother : other ≠ id) : c'.isDone other = c.isDone other := by
  rw [isDone_eq, hplaces.other hother, isDone_eq]

/-- A run that goes on frees no slot. -/
theorem Releases.of_live {place : Place} (hplaces : Puts c c' id place)
    (hlive : place.isDone = false)
    (hactive : c.active.isSome = true → c'.active.isSome = true) : Releases c c' := by
  refine .of_kept hactive fun other hother => ?_
  by_cases heq : other = id
  · rw [heq, hplaces.isDone_self, hlive]
  · rw [hplaces.isDone_other heq, hother]

/-- A run that ends frees the slot that it holds. -/
theorem Releases.of_done {place : Place} (hplaces : Puts c c' id place)
    (hdone : place.isDone = true) (hactive : c'.active = c.activeWithout id) : Releases c c' where
  freed holder hheld hfree := by
    rw [hactive, activeWithout] at hfree
    split_ifs at hfree with hown
    · obtain rfl : id = holder := Option.some.inj (hown.symm.trans hheld)
      rw [hplaces.isDone_self, hdone]
    · rw [hheld] at hfree
      cases hfree
  ended other hlive hover := by
    by_cases heq : other = id
    · rw [heq, hactive]
    · rw [hplaces.isDone_other heq, hlive] at hover
      exact Bool.noConfusion hover

theorem Turn.releases {away : Bool} (turn : Turn away c c') : Releases c c' := by
  cases turn with
  | idle hplaces hactive =>
    refine .of_kept (by rw [hactive]; exact fun h => h) fun id hlive => ?_
    rwa [isDone_eq, hplaces, ← isDone_eq]
  | arrive hnew hplaces hactive | work hbefore hplaces hactive
  | enter hbefore hdone hplaces hactive =>
    exact .of_live hplaces rfl (by rw [hactive]; exact fun h => h)
  | take hbefore hplaces hactive =>
    refine .of_live hplaces ?_ (by rw [hactive]; exact fun _ => rfl)
    cases c.active <;> rfl
  | finish hbefore hplaces hactive => exact .of_done hplaces rfl hactive
  | drop haway hbefore hallowed hplaces hactive => exact .of_done hplaces rfl hactive

/-- A caller who walks away frees the slot of the run, whether or not the run ahead lives. -/
theorem releases_drop (h : Numbered c) (id : RunId) :
    Releases c (c.drop id) ∧ Numbered (c.drop id) := by
  rcases drop_cases c id with hsame | ⟨r, hr, -, hcarries⟩
  · rw [hsame]
    exact ⟨.of_kept (fun hheld => hheld) fun _ hlive => hlive, h⟩
  · exact ⟨.of_done (hcarries.puts hr) rfl hcarries.active, hcarries.numbers.numbered h⟩

/-- Whatever happens, the slot is given back by its run alone, and the runs keep their numbers. -/
theorem releases_apply (h : Numbered c) (event : Event) :
    Releases c (c.apply event) ∧ Numbered (c.apply event) := by
  have hturn (horderly : c.isOrderly event = true) :
      Releases c (c.apply event) ∧ Numbered (c.apply event) := by
    obtain ⟨(turn : Turn true c (c.apply event)), hnumbered⟩ :=
      turn_apply h horderly fun _ _ => rfl
    exact ⟨turn.releases, hnumbered⟩
  cases event with
  | drop id => exact releases_drop h id
  | _ => exact hturn rfl

theorem numbered_run (h : Numbered c) (events : List Event) : Numbered (c.run events) := by
  induction events generalizing c with
  | nil => exact h
  | cons event events ih => exact ih (releases_apply h event).2

/-! ### Sources that the parser rejects -/

/-- A run that has finished does nothing more. -/
theorem Change.of_finished (hchange : Change c event r r' more)
    (hfinished : r.stage = .finished outcome) : r'.stage = .finished outcome ∧ more = [] := by
  cases hchange with
  | stay => exact ⟨hfinished, rfl⟩
  | hear f =>
    rw [onConnection, hfinished]
    exact ⟨hfinished, rfl⟩
  | drop _ _ hsuspended =>
    rw [hfinished] at hsuspended
    exact Bool.noConfusion hsuspended
  | stride _ _ hstride =>
    cases hstride with
    | queue hstage | resolve hstage | settled hstage | closed hstage | stopped hstage
    | take _ hstage | takeFree _ hstage | enter _ hstage | quitParsing _ hstage
    | quitLaunching _ hstage | retreat _ hstage | interrupt _ hstage | unsettle _ hstage
    | parse _ hstage | parsed _ hstage | reject _ hstage | unparsed _ hstage | launch _ hstage
    | launched _ hstage | unlaunched _ hstage | connect _ hstage | connected _ hstage
    | unconnected _ hstage | step _ hstage | stepped _ hstage | failed _ hstage =>
      rw [hfinished] at hstage
      cases hstage

end Coordinator

end ValueTrace
