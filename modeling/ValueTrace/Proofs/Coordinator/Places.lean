import Mathlib.Data.List.Nodup
import ValueTrace.Proofs.Coordinator.Strides

/-!
# The places of runs

As far as the runs of a coordinator have to do with each other, a run has not arrived yet, or waits
for another one, or is on its way, with or without a connection and a debuggee, or is over.
Whatever happens to a coordinator is one of a few kinds of turns, each of which moves one run from
its place to another (`Coordinator.turn_apply`).

## Main definitions

* `Place`, `Stage.place`, `Coordinator.place?` : where a run is.
* `Numbered` : each run has its own number.
* `Balance` : what a run takes and gives back while it moves.
* `Coordinator.isOrderly` : no waiting run is dropped while the one it waits for lives.
* `Turn`, `Advances` : what can happen.

## Main results

* `Stride.turn` : every stride is one of these turns.
* `Coordinator.turn_apply` : every orderly event is one of them.
-/

namespace ValueTrace

namespace Coordinator

open Inspector (Connection)

/-! ### Places -/

/-- Where a run is, as far as the other runs are concerned. -/
inductive Place where
  /-- The run has not taken the slot. -/
  | arriving
  /-- The run waits for the one that held the slot. -/
  | waiting (previous : RunId)
  /-- The run is on its way, and may hold a connection and a debuggee. -/
  | within (connection debuggee : Bool)
  | finished
  /-- The caller has walked away. -/
  | dropped
deriving DecidableEq, Repr

namespace Place

/-- Whether a run at a place has been let on its way. -/
def hasStarted : Place → Bool
  | .arriving | .waiting _ => false
  | .within .. | .finished | .dropped => true

/-- Whether a run at a place is over. -/
def isDone : Place → Bool
  | .finished | .dropped => true
  | _ => false

theorem hasStarted_of_isDone {place : Place} (h : place.isDone = true) :
    place.hasStarted = true := by
  cases place <;> first | rfl | exact Bool.noConfusion h

end Place

/-- The place of a run in a stage. -/
def Stage.place : Stage → Place
  | .arriving => .arriving
  | .superseding previous | .queued previous => .waiting previous
  | .parsing _ | .resolving _ | .launching .. => .within false false
  | .connecting .. => .within false true
  | .stepping .. | .settling .. | .closing .. => .within true true
  | .stopping .. => .within false true
  | .finished _ => .finished
  | .dropped => .dropped

theorem Stage.isDone_place (stage : Stage) : stage.place.isDone = stage.isDone := by
  cases stage <;> rfl

/-- The place of the run with a number. -/
def place? (c : Coordinator) (id : RunId) : Option Place :=
  (c.run? id).map fun r => r.stage.place

variable {c c' : Coordinator} {id : RunId} {r : Run} {stage : Stage} {acts : List Act}
variable {slot : Option RunId}

theorem place?_of_run? (h : c.run? id = some r) : c.place? id = some r.stage.place := by
  rw [place?, h, Option.map_some]

/-- A run is over when its place says so, or when there is no such run. -/
theorem isDone_eq (c : Coordinator) (id : RunId) :
    c.isDone id = (c.place? id).elim true Place.isDone := by
  rw [isDone, place?]
  cases c.run? id with
  | none => rfl
  | some r => exact (Stage.isDone_place r.stage).symm

/-- One run has come to a place, and all others are where they were. -/
def Puts (c c' : Coordinator) (id : RunId) (place : Place) : Prop :=
  ∀ other, c'.place? other = if other = id then some place else c.place? other

/-! ### How runs are changed -/

/-- A change that keeps numbers and places keeps all places. -/
theorem place?_updateRun {f : Run → Run}
    (hf : ∀ r, (f r).id = r.id ∧ (f r).stage.place = r.stage.place) (other : RunId) :
    (c.updateRun id f).place? other = c.place? other := by
  rw [place?, run?_updateRun fun r => (hf r).1, Option.map_map, place?]
  congr 1
  funext r
  rw [Function.comp_apply]
  split_ifs
  · exact (hf r).2
  · rfl

/-- What happens to a connection moves no run. -/
theorem place_onConnection (f : Connection → Connection) (r : Run) :
    (onConnection f r).id = r.id ∧ (onConnection f r).stage.place = r.stage.place := by
  rw [onConnection]
  split
  · rename_i h
    exact ⟨rfl, by rw [h]; rfl⟩
  · rename_i h
    exact ⟨rfl, by rw [h]; rfl⟩
  · rename_i h
    exact ⟨rfl, by rw [h]; rfl⟩
  · exact ⟨rfl, rfl⟩

/-- A run that comes to a stage comes to its place. -/
theorem Carries.puts (hcarries : Carries c c' id stage acts slot) (h : c.run? id = some r) :
    Puts c c' id stage.place := by
  intro other
  cases hother : c.run? other with
  | none =>
    have hne : other ≠ id := by
      rintro rfl
      rw [h] at hother
      cases hother
    rw [if_neg hne, place?, place?, hcarries.numbers.run?_eq_none hother, hother]
  | some s =>
    obtain ⟨cancelled, -, hrun⟩ := hcarries.runs other s hother
    rw [place?_of_run? hrun]
    split_ifs
    · rfl
    · exact (place?_of_run? hother).symm

theorem puts_moveTo (h : c.run? id = some r) (stage : Stage) :
    Puts c (c.moveTo id stage) id stage.place :=
  (carries_move c id stage).puts h

/-! ### Numbers -/

/-- The runs of a coordinator are numbered from 1 on. -/
def Numbered (c : Coordinator) : Prop := c.runs.map Run.id = List.range' 1 c.lastRun

/-- A run is the one with its number. -/
theorem Numbered.run?_of_mem (h : Numbered c) (hr : r ∈ c.runs) : c.run? r.id = some r := by
  obtain ⟨found, hfound⟩ : ∃ found, c.run? r.id = some found := by
    rw [← Option.isSome_iff_exists, run?, List.find?_isSome]
    exact ⟨r, hr, by simp⟩
  have hnodup : (c.runs.map Run.id).Nodup := by
    rw [h]
    exact List.nodup_range'
  rw [hfound, List.inj_on_of_nodup_map hnodup (List.mem_of_find?_eq_some hfound) hr
    (id_of_run? hfound)]

/-- The next number has not been given to any run. -/
theorem Numbered.place?_next (h : Numbered c) : c.place? (c.lastRun + 1) = none := by
  rw [place?, Option.map_eq_none_iff, run?, List.find?_eq_none]
  intro r hr hnext
  have hid := List.mem_map_of_mem (f := Run.id) hr
  rw [h, List.mem_range'_1, of_decide_eq_true hnext] at hid
  omega

theorem SameNumbers.numbered (hsame : SameNumbers c c') (h : Numbered c) : Numbered c' := by
  rw [Numbered, hsame.1, hsame.2]
  exact h

/-! ### Acts and what they balance -/

/-- Whether an act is part of the way of a run. -/
def Act.isWork : Act → Bool
  | .takesSlot | .ends => false
  | _ => true

/-- Whether an act only asks for something. -/
def Act.isAsking : Act → Bool
  | .parses | .launches _ | .connects _ => true
  | _ => false

/-- Whether a run has a debuggee from an act on. -/
def Act.isOwning : Act → Bool
  | .owns _ => true
  | _ => false

/-- Whether a run has no debuggee from an act on. -/
def Act.isStopping : Act → Bool
  | .stops _ => true
  | _ => false

/-- What a run takes and gives back in some acts is what it holds afterwards and held before. -/
structure Balance (connection debuggee : Bool) (acts : List Act) (connection' debuggee' : Bool) :
    Prop where
  work : ∀ act ∈ acts, act.isWork = true
  connection : connection.toNat + acts.count .opens = connection'.toNat + acts.count .closes
  debuggee : debuggee.toNat + acts.countP Act.isOwning =
    debuggee'.toNat + acts.countP Act.isStopping

/-! ### Turns -/

/-- Whether an event drops no waiting run while the one it waits for lives. -/
def isOrderly (c : Coordinator) : Event → Bool
  | .drop id =>
    match (c.run? id).map Run.stage with
    | some (.queued previous) => c.isDone previous
    | _ => true
  | _ => true

/-- What can happen to a coordinator, as far as its runs have to do with each other, where callers
may walk away or not. -/
inductive Turn (away : Bool) (c c' : Coordinator) : Prop
  /-- Nothing that concerns other runs. -/
  | idle (hplaces : ∀ other, c'.place? other = c.place? other) (hactive : c'.active = c.active)
      (hhistory : c'.history = c.history)
  /-- A caller asks for a trace. -/
  | arrive {id : RunId} (hnew : c.place? id = none) (hplaces : Puts c c' id .arriving)
      (hactive : c'.active = c.active) (hhistory : c'.history = c.history)
  /-- A run takes the slot, and waits for the run that held it. -/
  | take {id : RunId} (hbefore : c.place? id = some .arriving)
      (hplaces : Puts c c' id (c.active.elim (.within false false) .waiting))
      (hactive : c'.active = some id) (hhistory : c'.history = c.history ++ [(id, .takesSlot)])
  /-- A run learns that the one it waits for is over. -/
  | enter {id previous : RunId} (hbefore : c.place? id = some (.waiting previous))
      (hdone : c.isDone previous = true) (hplaces : Puts c c' id (.within false false))
      (hactive : c'.active = c.active) (hhistory : c'.history = c.history)
  /-- A run goes on its way. -/
  | work {id : RunId} {connection debuggee connection' debuggee' : Bool} {acts : List Act}
      (hbefore : c.place? id = some (.within connection debuggee))
      (hplaces : Puts c c' id (.within connection' debuggee'))
      (hactive : c'.active = c.active) (hhistory : c'.history = c.history ++ acts.map (id, ·))
      (hbalance : Balance connection debuggee acts connection' debuggee')
  /-- A run that holds nothing any more is over. -/
  | finish {id : RunId} {connection debuggee : Bool} {acts : List Act}
      (hbefore : c.place? id = some (.within connection debuggee))
      (hplaces : Puts c c' id .finished) (hactive : c'.active = c.activeWithout id)
      (hhistory : c'.history = c.history ++ (acts ++ [Act.ends]).map (id, ·))
      (hbalance : Balance connection debuggee acts false false)
  /-- A caller walks away from a run on its way, or from one that need not wait any longer. -/
  | drop {id : RunId} {place : Place} (haway : away = true) (hbefore : c.place? id = some place)
      (hallowed : (∃ previous, place = .waiting previous ∧ c.isDone previous = true) ∨
        ∃ connection debuggee, place = .within connection debuggee)
      (hplaces : Puts c c' id .dropped) (hactive : c'.active = c.activeWithout id)
      (hhistory : c'.history = c.history ++ [(id, .ends)])

/-- A turn of the runs that are there. -/
structure Advances (away : Bool) (c c' : Coordinator) : Prop where
  numbers : SameNumbers c c'
  turn : Turn away c c'

variable {away : Bool}

/-! ### Strides and polls -/

theorem balance_nil (connection debuggee : Bool) :
    Balance connection debuggee [] connection debuggee :=
  ⟨by simp, by simp, by simp⟩

theorem Balance.append {connection debuggee connection' debuggee' connection'' debuggee'' : Bool}
    {acts acts' : List Act} (h : Balance connection debuggee acts connection' debuggee')
    (h' : Balance connection' debuggee' acts' connection'' debuggee'') :
    Balance connection debuggee (acts ++ acts') connection'' debuggee'' := by
  obtain ⟨hwork, hconnection, hdebuggee⟩ := h
  obtain ⟨hwork', hconnection', hdebuggee'⟩ := h'
  refine ⟨fun act hact => ?_, ?_, ?_⟩
  · exact (List.mem_append.1 hact).elim (hwork act) (hwork' act)
  · rw [List.count_append, List.count_append]
    omega
  · rw [List.countP_append, List.countP_append]
    omega

/-- What is asked for takes nothing. -/
theorem balance_asked {act : Act} (h : act.isAsking = true) (started connection debuggee : Bool) :
    Balance connection debuggee (asked started act) connection debuggee := by
  cases started with
  | true => exact balance_nil connection debuggee
  | false =>
    cases act <;>
      first
        | exact Bool.noConfusion h
        | constructor <;> simp [asked, Act.isWork, Act.isOwning, Act.isStopping]

theorem balance_owns (endpoint : String) : Balance false false [.owns endpoint] false true := by
  constructor <;> simp [Act.isWork, Act.isOwning, Act.isStopping]

theorem balance_opens : Balance false true [.opens] true true := by
  constructor <;> simp [Act.isWork, Act.isOwning, Act.isStopping]

theorem balance_closes : Balance true true [.closes] false true := by
  constructor <;> simp [Act.isWork, Act.isOwning, Act.isStopping]

theorem balance_stops (graceful : Bool) : Balance false true [.stops graceful] false false := by
  constructor <;> simp [Act.isWork, Act.isOwning, Act.isStopping]

/-- A run on its way comes to another stage of it. -/
theorem Carries.work (hcarries : Carries c c' r.id stage acts c.active) (h : c.run? r.id = some r)
    {before : Stage} {connection debuggee connection' debuggee' : Bool} (hstage : r.stage = before)
    (hplace : before.place = .within connection debuggee)
    (hplace' : stage.place = .within connection' debuggee')
    (hbalance : Balance connection debuggee acts connection' debuggee') : Turn away c c' := by
  have hplaces := hcarries.puts h
  rw [hplace'] at hplaces
  refine .work ?_ hplaces hcarries.active hcarries.history hbalance
  rw [place?_of_run? h, hstage, hplace]

/-- A run that has given everything back may be over. -/
theorem Carries.finish {outcome : Outcome} (acts : List Act)
    (hcarries : Carries c c' r.id (.finished outcome) (acts ++ [.ends]) (c.activeWithout r.id))
    (h : c.run? r.id = some r) {before : Stage} {connection debuggee : Bool}
    (hstage : r.stage = before) (hplace : before.place = .within connection debuggee)
    (hbalance : Balance connection debuggee acts false false) : Turn away c c' := by
  refine .finish ?_ (hcarries.puts h) hcarries.active hcarries.history hbalance
  rw [place?_of_run? h, hstage, hplace]

/-- Every stride is a turn. -/
theorem Stride.turn (hstride : Stride c r stage acts slot) (h : c.run? r.id = some r)
    (hcarries : Carries c c' r.id stage acts slot) : Turn away c c' := by
  have hplaces := hcarries.puts h
  have hhistory := hcarries.history
  have hbefore {before : Stage} (hstage : r.stage = before) :
      c.place? r.id = some before.place := by rw [place?_of_run? h, hstage]
  cases hstride with
  | take hactive hstage | takeFree hactive hstage =>
    exact .take (hbefore hstage) (by rw [hactive]; exact hplaces) hcarries.active hhistory
  | queue hstage =>
    -- It waits for the same run as before, which is only cancelled.
    refine .idle (fun other => ?_) hcarries.active (by simpa using hhistory)
    rw [hplaces other]
    split_ifs with hother
    · rw [hother, hbefore hstage]
      rfl
    · rfl
  | enter hdone hstage =>
    exact .enter (hbefore hstage) hdone hplaces hcarries.active (by simpa using hhistory)
  | quitParsing _ hstage | quitLaunching _ hstage =>
    exact hcarries.finish [] h hstage rfl (balance_nil false false)
  | retreat _ hstage | interrupt _ hstage | unsettle _ hstage | resolve hstage | step _ hstage
  | stepped _ hstage | failed _ hstage | settled hstage =>
    exact hcarries.work h hstage rfl rfl (balance_nil _ _)
  | parse _ hstage | parsed _ hstage | launch _ hstage | connect _ hstage
  | unconnected _ hstage =>
    exact hcarries.work h hstage rfl rfl (balance_asked rfl _ _ _)
  | reject _ hstage | unparsed _ hstage | unlaunched _ hstage =>
    exact hcarries.finish _ h hstage rfl (balance_asked rfl _ _ _)
  | launched _ hstage =>
    exact hcarries.work h hstage rfl rfl ((balance_asked rfl _ _ _).append (balance_owns _))
  | connected _ hstage =>
    exact hcarries.work h hstage rfl rfl ((balance_asked rfl _ _ _).append balance_opens)
  | closed hstage => exact hcarries.work h hstage rfl rfl balance_closes
  | stopped hstage => exact hcarries.finish [_] h hstage rfl (balance_stops _)

theorem advances_self (c : Coordinator) : Advances away c c :=
  ⟨.refl c, .idle (fun _ => rfl) rfl rfl⟩

/-- Changes that keep numbers and places move no run. -/
theorem advances_updateRun {f : Run → Run}
    (hf : ∀ r, (f r).id = r.id ∧ (f r).stage.place = r.stage.place) :
    Advances away c (c.updateRun id f) :=
  ⟨sameNumbers_updateRun c id fun r => (hf r).1, .idle (place?_updateRun hf) rfl rfl⟩

/-- Every poll is a turn. -/
theorem advances_poll (c : Coordinator) (id : RunId) (answer : Option Answer) :
    Advances away c (c.poll id answer) := by
  rcases poll_cases c id answer with hsame | ⟨r, stage, acts, slot, h, hstride, hcarries⟩
  · rw [hsame]
    exact advances_self c
  · obtain rfl := id_of_run? h
    exact ⟨hcarries.numbers, hstride.turn h hcarries⟩

/-! ### Events -/

/-- A run that leaves is at its last place, and the slot is free if it was its own. -/
theorem advances_drop (horderly : c.isOrderly (.drop id) = true) : Advances true c (c.drop id) := by
  rcases drop_cases c id with hsame | ⟨r, h, hsuspended, hcarries⟩
  · rw [hsame]
    exact advances_self c
  · have hdrop {before : Stage} (hstage : r.stage = before)
        (hallowed : (∃ previous, before.place = .waiting previous ∧ c.isDone previous = true) ∨
          ∃ connection debuggee, before.place = .within connection debuggee) :
        Advances true c (c.drop id) := by
      refine ⟨hcarries.numbers, .drop rfl ?_ hallowed (hcarries.puts h) hcarries.active
        hcarries.history⟩
      rw [place?_of_run? h, hstage]
    cases hstage : r.stage with
    | queued previous =>
      have hdone : c.isDone previous = true := by
        simpa only [isOrderly, h, Option.map_some, hstage] using horderly
      exact hdrop hstage (Or.inl ⟨previous, rfl, hdone⟩)
    | arriving | superseding previous | finished outcome | dropped =>
      rw [hstage] at hsuspended
      exact Bool.noConfusion hsuspended
    | _ => exact hdrop hstage (Or.inr ⟨_, _, rfl⟩)

/-- Every orderly event is a turn and keeps the numbers in order. -/
theorem turn_apply (h : Numbered c) {event : Event} (horderly : c.isOrderly event = true)
    (haway : ∀ id, event = .drop id → away = true) :
    Turn away c (c.apply event) ∧ Numbered (c.apply event) := by
  have hadvances (hadvances : Advances away c (c.apply event)) :
      Turn away c (c.apply event) ∧ Numbered (c.apply event) :=
    ⟨hadvances.turn, hadvances.numbers.numbered h⟩
  cases event with
  | call request =>
    refine ⟨.arrive h.place?_next (fun other => ?_) rfl rfl, ?_⟩
    · change ((c.runs ++ [_]).find? fun r : Run => r.id = other).map _ = _
      rw [List.find?_append]
      split_ifs with hother
      · have hnone : (c.runs.find? fun r : Run => r.id = other) = none := by
          rw [hother]
          exact Option.map_eq_none_iff.1 h.place?_next
        rw [hnone, Option.none_or, List.find?_singleton, if_pos (decide_eq_true hother.symm)]
        rfl
      · rw [List.find?_singleton, if_neg (by simpa using Ne.symm hother), Option.or_none]
        rfl
    · change (c.runs ++ [_]).map Run.id = List.range' 1 (c.lastRun + 1)
      rw [List.map_append, h, List.range'_1_concat, Nat.add_comm 1]
      rfl
  | poll id answer => exact hadvances (advances_poll c id answer)
  | frame id text => exact hadvances (advances_updateRun fun r => place_onConnection _ r)
  | hangUp id => exact hadvances (advances_updateRun fun r => place_onConnection _ r)
  | cancelActive =>
    refine hadvances ?_
    rw [apply, cancelActive]
    split
    · exact advances_updateRun fun _ => ⟨rfl, rfl⟩
    · exact advances_self c
  | drop id =>
    obtain rfl := haway id rfl
    exact hadvances (advances_drop horderly)

end Coordinator

end ValueTrace
