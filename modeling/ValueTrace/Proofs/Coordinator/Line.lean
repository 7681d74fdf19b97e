import Mathlib.Data.List.Nodup
import ValueTrace.Proofs.Coordinator.Places

/-!
# Runs in line

The runs of a coordinator stand in line in the order in which they took the slot.  A waiting run
only knows the run right ahead of it.  That one starts after all runs ahead of it are over, so a run
that learns of the end of the run right ahead of it learns of the end of all of them.

## Main definitions

* `Coordinator.takers`, `Coordinator.Ahead` : who took the slot, and who took it earlier.
* `Coordinator.Over` : a run that has taken the slot and is over.
* `InLine` : what holds of the line at all times.
* `Coordinator.areOrderly` : no event of a history is out of order.

## Main results

* `Turn.inLine` : every turn keeps the line.
* `inLine_run` : the line holds after every orderly history.
-/

namespace ValueTrace

namespace Coordinator

open List (Sublist)

/-! ### Pairs in a list -/

theorem pair_sublist_concat {α : Type} {l : List α} {a b x : α} :
    Sublist [a, b] (l ++ [x]) ↔ Sublist [a, b] l ∨ a ∈ l ∧ b = x := by
  constructor
  · intro h
    obtain ⟨before, after, heq, hbefore, hafter⟩ := List.sublist_append_iff.1 h
    match before, after with
    | [], after =>
      have hlength := hafter.length_le
      rw [List.nil_append] at heq
      subst heq
      exact absurd hlength (by simp)
    | [_], after =>
      obtain ⟨rfl, rfl⟩ : a = _ ∧ [b] = after := by simpa using heq
      refine Or.inr ⟨List.singleton_sublist.1 hbefore, ?_⟩
      simpa using hafter
    | _ :: _ :: before, after =>
      obtain ⟨rfl, rfl, rfl, rfl⟩ : a = _ ∧ b = _ ∧ before = [] ∧ after = [] := by
        simpa using heq
      exact Or.inl hbefore
  · rintro (h | ⟨ha, rfl⟩)
    · exact h.trans (List.sublist_append_left l [x])
    · exact (List.singleton_sublist.2 ha).append (List.Sublist.refl [b])

/-- Of two elements, one stands before the other. -/
theorem pair_sublist_total {α : Type} {l : List α} {a b : α} (ha : a ∈ l) (hb : b ∈ l)
    (hne : a ≠ b) : Sublist [a, b] l ∨ Sublist [b, a] l := by
  obtain ⟨before, after, rfl⟩ := List.append_of_mem ha
  rcases List.mem_append.1 hb with hb | hb
  · have h := (List.singleton_sublist.2 hb).append (List.Sublist.refl [a])
    exact Or.inr (h.trans ((List.singleton_sublist.2 List.mem_cons_self).append_left _))
  · have hb : b ∈ after := (List.mem_cons.1 hb).resolve_left hne.symm
    exact Or.inl (((List.singleton_sublist.2 hb).cons_cons a).trans
      (List.sublist_append_right before _))

/-! ### The line -/

/-- The run that takes the slot in an entry of a history. -/
def taker? : RunId × Act → Option RunId
  | (id, .takesSlot) => some id
  | _ => none

/-- The runs that took the slot, in order. -/
def takers (c : Coordinator) : List RunId := c.history.filterMap taker?

/-- One run took the slot earlier than another one. -/
def Ahead (c : Coordinator) (a b : RunId) : Prop := Sublist [a, b] c.takers

/-- A run has taken the slot and is over. -/
def Over (c : Coordinator) (id : RunId) : Prop :=
  ∃ place, c.place? id = some place ∧ place.isDone = true

variable {c c' : Coordinator} {id a b : RunId} {place place' : Place}

theorem Ahead.mem_left (h : c.Ahead a b) : a ∈ c.takers := h.subset List.mem_cons_self

theorem Ahead.mem_right (h : c.Ahead a b) : b ∈ c.takers :=
  h.subset (List.mem_cons_of_mem _ List.mem_cons_self)

/-- A run that takes the slot comes last. -/
theorem ahead_concat (h : c'.takers = c.takers ++ [id]) :
    c'.Ahead a b ↔ c.Ahead a b ∨ a ∈ c.takers ∧ b = id := by
  rw [Ahead, h, pair_sublist_concat]
  rfl

/-- Work changes nothing in the line. -/
theorem takers_append_work {acts : List Act} (hwork : ∀ act ∈ acts, act ≠ .takesSlot)
    (h : c'.history = c.history ++ acts.map (id, ·)) : c'.takers = c.takers := by
  have hnone : (acts.map (id, ·)).filterMap taker? = [] := by
    rw [List.filterMap_eq_nil_iff]
    intro entry hentry
    obtain ⟨act, hact, rfl⟩ := List.mem_map.1 hentry
    cases act with
    | takesSlot => exact absurd rfl (hwork _ hact)
    | _ => rfl
  rw [takers, h, List.filterMap_append, hnone, List.append_nil, takers]

theorem Act.ne_takesSlot_of_isWork {act : Act} (h : act.isWork = true) : act ≠ .takesSlot := by
  rintro rfl
  exact Bool.noConfusion h

/-! ### Places that are put -/

theorem Puts.self (h : Puts c c' id place) : c'.place? id = some place := by
  rw [h id, if_pos rfl]

theorem Puts.other (h : Puts c c' id place) (hne : a ≠ id) : c'.place? a = c.place? a := by
  rw [h a, if_neg hne]

/-- A run is at the place where it was put, or where it was before. -/
theorem Puts.cases (h : Puts c c' id place) (hplace : c'.place? a = some place') :
    a = id ∧ place = place' ∨ a ≠ id ∧ c.place? a = some place' := by
  by_cases hne : a = id
  · rw [hne, h.self, Option.some.injEq] at hplace
    exact Or.inl ⟨hne, hplace⟩
  · exact Or.inr ⟨hne, (h.other hne).symm.trans hplace⟩

/-- A run that is over stays over while one that is not over is put elsewhere. -/
theorem Over.puts (hover : c.Over a) (h : Puts c c' id place') (hbefore : ¬ c.Over id) :
    c'.Over a := by
  have hne : a ≠ id := by
    rintro rfl
    exact hbefore hover
  obtain ⟨place, hplace, hdone⟩ := hover
  exact ⟨place, (h.other hne).trans hplace, hdone⟩

theorem not_over (h : c.place? id = some place) (hdone : place.isDone = false) : ¬ c.Over id := by
  rintro ⟨place', hplace', hdone'⟩
  rw [h, Option.some.injEq] at hplace'
  rw [← hplace', hdone] at hdone'
  exact Bool.noConfusion hdone'

/-- A run that is there is over as soon as those who wait for it may go on. -/
theorem over_of_isDone (h : c.place? id = some place) (hdone : c.isDone id = true) : c.Over id := by
  refine ⟨place, h, ?_⟩
  rwa [isDone_eq, h] at hdone

/-! ### What holds of the line -/

/-- What holds of the line of a coordinator at all times. -/
structure InLine (c : Coordinator) : Prop where
  /-- The runs in line are those that have arrived. -/
  arrived : ∀ id, id ∈ c.takers ↔ ∃ place, c.place? id = some place ∧ place ≠ .arriving
  /-- No run takes the slot twice. -/
  once : c.takers.Nodup
  /-- A waiting run knows the run right ahead of it. -/
  waiting : ∀ id previous, c.place? id = some (.waiting previous) →
    ∀ a, c.Ahead a id ↔ a = previous ∨ c.Ahead a previous
  /-- A run starts after all runs ahead of it are over. -/
  started : ∀ id place, c.place? id = some place → place.hasStarted = true →
    ∀ a, c.Ahead a id → c.Over a
  /-- A free slot means that all runs in line are over. -/
  free : c.active = none → ∀ a ∈ c.takers, c.Over a
  /-- The slot is held by the last run in line, which is not over. -/
  held : ∀ id, c.active = some id → ¬ c.Over id ∧ ∃ front, c.takers = front ++ [id]

namespace InLine

theorem not_mem_of_arriving (h : InLine c) (hplace : c.place? id = some .arriving) :
    id ∉ c.takers := by
  intro hmem
  obtain ⟨place, hplace', hne⟩ := (h.arrived id).1 hmem
  rw [hplace, Option.some.injEq] at hplace'
  exact hne hplace'.symm

theorem not_mem_of_none (h : InLine c) (hplace : c.place? id = none) : id ∉ c.takers := by
  intro hmem
  obtain ⟨place, hplace', -⟩ := (h.arrived id).1 hmem
  rw [hplace] at hplace'
  cases hplace'

/-- Those ahead of the last run in line are all others. -/
theorem ahead_last (h : InLine c) {front : List RunId} (hlast : c.takers = front ++ [id]) :
    c.Ahead a id ↔ a ∈ front := by
  have hfresh : id ∉ front := by
    have honce := h.once
    rw [hlast, List.nodup_append] at honce
    exact fun hmem => honce.2.2 id hmem id List.mem_cons_self rfl
  rw [Ahead, hlast, pair_sublist_concat]
  constructor
  · rintro (hpair | ⟨hmem, -⟩)
    · exact absurd (hpair.subset (List.mem_cons_of_mem _ List.mem_cons_self)) hfresh
    · exact hmem
  · exact fun hmem => Or.inr ⟨hmem, rfl⟩

/-- A run whose predecessor is over has only runs ahead of it that are over. -/
theorem over_of_previous (h : InLine c) {previous : RunId}
    (hplace : c.place? id = some (.waiting previous)) (hdone : c.isDone previous = true) :
    ∀ a, c.Ahead a id → c.Over a := by
  have hahead := h.waiting id previous hplace
  obtain ⟨place, hprevious, -⟩ :=
    (h.arrived previous).1 ((hahead previous).2 (Or.inl rfl)).mem_left
  have hover := over_of_isDone hprevious hdone
  have ⟨place, hprevious, hdone⟩ := hover
  intro a ha
  rcases (hahead a).1 ha with rfl | ha
  · exact hover
  · exact h.started previous place hprevious (Place.hasStarted_of_isDone hdone) a ha

/-- Of two runs that have both started, at most one is not over. -/
theorem eq_of_started (h : InLine c) (ha : c.place? a = some place)
    (hb : c.place? b = some place') (hstarted : place.hasStarted = true)
    (hstarted' : place'.hasStarted = true) (hlive : ¬ c.Over a) (hlive' : ¬ c.Over b) : a = b := by
  by_contra hne
  have hne_arriving {place : Place} (hstarted : place.hasStarted = true) : place ≠ .arriving := by
    rintro rfl
    exact Bool.noConfusion hstarted
  rcases pair_sublist_total ((h.arrived a).2 ⟨_, ha, hne_arriving hstarted⟩)
    ((h.arrived b).2 ⟨_, hb, hne_arriving hstarted'⟩) hne with hahead | hahead
  · exact hlive (h.started b _ hb hstarted' a hahead)
  · exact hlive' (h.started a _ ha hstarted b hahead)

/-! ### Turns keep the line -/

theorem start (settings : EngineSettings) : InLine (Coordinator.start settings) where
  arrived id := by simp [takers, Coordinator.start, place?, run?]
  once := List.nodup_nil
  waiting id previous hplace := by simp [Coordinator.start, place?, run?] at hplace
  started id place hplace := by simp [Coordinator.start, place?, run?] at hplace
  free _ a ha := absurd ha (List.not_mem_nil)
  held id hactive := by simp [Coordinator.start] at hactive

/-- A line depends on the places, the slot and who took it. -/
theorem of_same (h : InLine c) (hplaces : ∀ other, c'.place? other = c.place? other)
    (hactive : c'.active = c.active) (htakers : c'.takers = c.takers) : InLine c' := by
  have hplaces : c'.place? = c.place? := funext hplaces
  have hover (a : RunId) : c'.Over a ↔ c.Over a := by rw [Over, hplaces, Over]
  constructor
  · rw [htakers, hplaces]
    exact h.arrived
  · rw [htakers]
    exact h.once
  · simp only [Ahead, htakers, hplaces]
    exact h.waiting
  · simp only [Ahead, htakers, hplaces, hover]
    exact h.started
  · simp only [htakers, hactive, hover]
    exact h.free
  · simp only [htakers, hactive, hover]
    exact h.held

theorem active_of_activeWithout_eq_none (h : c.activeWithout id = none) :
    c.active = some id ∨ c.active = none := by
  rw [activeWithout] at h
  split_ifs at h with hown
  · exact Or.inl hown
  · exact Or.inr h

theorem active_of_activeWithout_eq_some (h : c.activeWithout id = some a) :
    c.active = some a ∧ a ≠ id := by
  rw [activeWithout] at h
  split_ifs at h with hown
  refine ⟨h, ?_⟩
  rintro rfl
  exact hown h

/-- A run may be put elsewhere as long as the line does not change: it starts with only runs ahead
of it that are over, and gives back the slot when it is over itself. -/
theorem put (h : InLine c) (hplaces : Puts c c' id place) (hlive : ¬ c.Over id)
    (harrived : id ∈ c.takers ↔ place ≠ .arriving) (hfinal : ∀ previous, place ≠ .waiting previous)
    (hclear : place.hasStarted = true → ∀ a, c.Ahead a id → c.Over a)
    (hactive : c'.active = if place.isDone then c.activeWithout id else c.active)
    (htakers : c'.takers = c.takers) : InLine c' := by
  have hahead : c'.Ahead = c.Ahead := by
    funext a b
    rw [Ahead, htakers, Ahead]
  constructor
  · intro other
    rw [htakers]
    by_cases hother : other = id
    · rw [hother, hplaces.self, harrived]
      simp
    · rw [hplaces.other hother]
      exact h.arrived other
  · rw [htakers]
    exact h.once
  · intro other previous hplace
    obtain ⟨-, heq⟩ | ⟨-, hplace⟩ := hplaces.cases hplace
    · exact absurd heq (hfinal previous)
    · rw [hahead]
      exact h.waiting other previous hplace
  · intro other place' hplace hstarted a ha
    rw [hahead] at ha
    obtain ⟨rfl, rfl⟩ | ⟨-, hplace⟩ := hplaces.cases hplace
    · exact (hclear hstarted a ha).puts hplaces hlive
    · exact (h.started other place' hplace hstarted a ha).puts hplaces hlive
  · intro hfree a ha
    have hslot : place.isDone = true ∧ c.active = some id ∨ c.active = none := by
      rw [hactive] at hfree
      split_ifs at hfree with hdone
      · exact (active_of_activeWithout_eq_none hfree).imp_left fun hown => ⟨hdone, hown⟩
      · exact Or.inr hfree
    rw [htakers] at ha
    rcases hslot with ⟨hdone, hown⟩ | hfree
    · -- The run itself was last, and everyone ahead of it is over.
      obtain ⟨-, front, hlast⟩ := h.held id hown
      rw [hlast, List.mem_append, List.mem_singleton] at ha
      rcases ha with ha | rfl
      · have hover := hclear (Place.hasStarted_of_isDone hdone) a ((h.ahead_last hlast).2 ha)
        exact hover.puts hplaces hlive
      · exact ⟨place, hplaces.self, hdone⟩
    · exact (h.free hfree a ha).puts hplaces hlive
  · intro holder hholder
    have hkept : c.active = some holder ∧ (place.isDone = true → holder ≠ id) := by
      rw [hactive] at hholder
      split_ifs at hholder with hdone
      · exact (active_of_activeWithout_eq_some hholder).imp_right fun hne _ => hne
      · exact ⟨hholder, fun hdone' => absurd hdone' hdone⟩
    obtain ⟨hliving, front, hlast⟩ := h.held holder hkept.1
    refine ⟨?_, front, htakers.trans hlast⟩
    rintro ⟨place', hplace, hdone⟩
    obtain ⟨heq, rfl⟩ | ⟨-, hplace⟩ := hplaces.cases hplace
    · exact hkept.2 hdone heq
    · exact hliving ⟨place', hplace, hdone⟩

/-- A run in line goes on, with only runs ahead of it that are over. -/
theorem move (h : InLine c) (hbefore : c.place? id = some place) (harrived : place ≠ .arriving)
    (hlive : place.isDone = false) (hclear : ∀ a, c.Ahead a id → c.Over a)
    (hplaces : Puts c c' id place') (hstarted : place'.hasStarted = true)
    (hactive : c'.active = if place'.isDone then c.activeWithout id else c.active)
    (htakers : c'.takers = c.takers) : InLine c' := by
  refine h.put hplaces (not_over hbefore hlive) ?_ ?_ (fun _ => hclear) hactive htakers
  · refine iff_of_true ((h.arrived id).2 ⟨place, hbefore, harrived⟩) ?_
    rintro rfl
    exact Bool.noConfusion hstarted
  · rintro previous rfl
    exact Bool.noConfusion hstarted

/-- A run that arrives is not in line yet. -/
theorem arrive (h : InLine c) (hnew : c.place? id = none) (hplaces : Puts c c' id .arriving)
    (hactive : c'.active = c.active) (htakers : c'.takers = c.takers) : InLine c' := by
  refine h.put hplaces ?_ ?_ (by simp) (fun hstarted => Bool.noConfusion hstarted) hactive htakers
  · rintro ⟨place, hplace, -⟩
    rw [hnew] at hplace
    cases hplace
  · exact iff_of_false (h.not_mem_of_none hnew) (not_not_intro rfl)

/-- A run that takes the slot waits for the one that held it, or starts if there is none. -/
theorem take (h : InLine c) (hbefore : c.place? id = some .arriving)
    (hplaces : Puts c c' id (c.active.elim (.within false false) .waiting))
    (hactive : c'.active = some id) (htakers : c'.takers = c.takers ++ [id]) : InLine c' := by
  have hfresh := h.not_mem_of_arriving hbefore
  have hlive : ¬ c.Over id := not_over hbefore rfl
  have hplace : ∃ place, c'.place? id = some place ∧ place ≠ .arriving ∧ place.isDone = false := by
    refine ⟨_, hplaces.self, ?_⟩
    cases c.active <;> exact ⟨by simp, rfl⟩
  have hahead {a b : RunId} (hb : b ≠ id) : c'.Ahead a b ↔ c.Ahead a b := by
    rw [ahead_concat htakers, or_iff_left fun hab => hb hab.2]
  have hahead_id {a : RunId} : c'.Ahead a id ↔ a ∈ c.takers := by
    rw [ahead_concat htakers, or_iff_right fun hab => hfresh hab.mem_right, and_iff_left rfl]
  constructor
  · intro other
    rw [htakers, List.mem_append, List.mem_singleton]
    by_cases hother : other = id
    · obtain ⟨place, hself, hne, -⟩ := hplace
      subst hother
      exact iff_of_true (Or.inr rfl) ⟨place, hself, hne⟩
    · rw [hplaces.other hother, or_iff_left hother]
      exact h.arrived other
  · rw [htakers]
    simpa using h.once.concat hfresh
  · intro other previous hwaiting a
    obtain ⟨hother, hwaiting⟩ | ⟨hother, hwaiting⟩ := hplaces.cases hwaiting
    · -- The run that held the slot is the last one so far.
      cases hheld : c.active with
      | none =>
        rw [hheld] at hwaiting
        cases hwaiting
      | some holder =>
        obtain rfl : holder = previous := by
          rw [hheld] at hwaiting
          exact Place.waiting.inj hwaiting
        obtain ⟨-, front, hlast⟩ := h.held holder hheld
        have hne : holder ≠ id := by
          rintro rfl
          exact hfresh (hlast ▸ List.mem_append_right front List.mem_cons_self)
        rw [hother, hahead_id, hahead hne, h.ahead_last hlast, hlast, List.mem_append,
          List.mem_singleton, or_comm]
    · have hprevious : previous ≠ id := by
        rintro rfl
        exact hfresh ((h.waiting other previous hwaiting previous).2 (Or.inl rfl)).mem_left
      rw [hahead hother, hahead hprevious]
      exact h.waiting other previous hwaiting a
  · intro other place hplace hstarted a ha
    obtain ⟨hother, hstart⟩ | ⟨hother, hplace⟩ := hplaces.cases hplace
    · rw [hother, hahead_id] at ha
      cases hheld : c.active with
      | none => exact (h.free hheld a ha).puts hplaces hlive
      | some holder =>
        rw [← hstart, hheld] at hstarted
        exact Bool.noConfusion hstarted
    · rw [hahead hother] at ha
      exact (h.started other place hplace hstarted a ha).puts hplaces hlive
  · intro hfree
    rw [hactive] at hfree
    cases hfree
  · intro holder hholder
    obtain rfl : id = holder := by simpa [hactive] using hholder
    obtain ⟨place, hself, -, hdone⟩ := hplace
    exact ⟨not_over hself hdone, c.takers, htakers⟩

end InLine

/-- Every turn keeps the line. -/
theorem Turn.inLine {away : Bool} (turn : Turn away c c') (h : InLine c) : InLine c' := by
  cases turn with
  | idle hplaces hactive hhistory =>
    exact h.of_same hplaces hactive (by rw [takers, hhistory, takers])
  | arrive hnew hplaces hactive hhistory =>
    exact h.arrive hnew hplaces hactive (by rw [takers, hhistory, takers])
  | take hbefore hplaces hactive hhistory =>
    refine h.take hbefore hplaces hactive ?_
    rw [takers, hhistory, List.filterMap_append]
    rfl
  | enter hbefore hdone hplaces hactive hhistory =>
    exact h.move hbefore (by simp) rfl (h.over_of_previous hbefore hdone)
      hplaces rfl hactive (by rw [takers, hhistory, takers])
  | work hbefore hplaces hactive hhistory hbalance =>
    refine h.move hbefore (by simp) rfl (h.started _ _ hbefore rfl) hplaces rfl
      hactive (takers_append_work (fun act hact => ?_) hhistory)
    exact Act.ne_takesSlot_of_isWork (hbalance.work act hact)
  | finish hbefore hplaces hactive hhistory hbalance =>
    refine h.move hbefore (by simp) rfl (h.started _ _ hbefore rfl) hplaces rfl
      hactive (takers_append_work (fun act hact => ?_) hhistory)
    rcases List.mem_append.1 hact with hact | hact
    · exact Act.ne_takesSlot_of_isWork (hbalance.work act hact)
    · simp [List.mem_singleton.1 hact]
  | drop haway hbefore hallowed hplaces hactive hhistory =>
    have htakers : c'.takers = c.takers := by
      rw [takers, hhistory, List.filterMap_append]
      exact List.append_nil c.takers
    rcases hallowed with ⟨previous, rfl, hdone⟩ | ⟨connection, debuggee, rfl⟩
    · exact h.move hbefore (by simp) rfl (h.over_of_previous hbefore hdone)
        hplaces rfl hactive htakers
    · exact h.move hbefore (by simp) rfl (h.started _ _ hbefore rfl) hplaces rfl
        hactive htakers

/-! ### Histories -/

/-- Whether all events of a history are orderly when they happen. -/
def areOrderly (c : Coordinator) : List Event → Bool
  | [] => true
  | event :: events => c.isOrderly event && (c.apply event).areOrderly events

/-- Where no caller walks away, all is orderly. -/
theorem areOrderly_of_no_drop {events : List Event} (h : ∀ id, Event.drop id ∉ events)
    (c : Coordinator) : c.areOrderly events = true := by
  induction events generalizing c with
  | nil => rfl
  | cons event events ih =>
    have hevent : c.isOrderly event = true := by
      cases event with
      | drop id => exact absurd List.mem_cons_self (h id)
      | _ => rfl
    rw [areOrderly, hevent, Bool.true_and]
    exact ih (fun id hmem => h id (List.mem_cons_of_mem _ hmem)) _

/-- What holds at first and is kept by turns holds after every orderly history. -/
theorem run_induction_of_orderly {away : Bool} {P : Coordinator → Prop}
    (hturn : ∀ c c', Turn away c c' → P c → P c') {events : List Event}
    (haway : ∀ id, Event.drop id ∈ events → away = true) (horderly : c.areOrderly events = true)
    (hnumbered : Numbered c) (h : P c) : Numbered (c.run events) ∧ P (c.run events) := by
  induction events generalizing c with
  | nil => exact ⟨hnumbered, h⟩
  | cons event events ih =>
    obtain ⟨hevent, hevents⟩ := Bool.and_eq_true_iff.1 horderly
    obtain ⟨turn, hnumbered⟩ :=
      turn_apply hnumbered hevent fun id heq => haway id (heq ▸ List.mem_cons_self)
    exact ih (fun id hmem => haway id (List.mem_cons_of_mem _ hmem)) hevents hnumbered
      (hturn _ _ turn h)

theorem numbered_start (settings : EngineSettings) : Numbered (start settings) := rfl

/-- The line holds after every orderly history. -/
theorem inLine_run {settings : EngineSettings} {events : List Event}
    (horderly : (start settings).areOrderly events = true) :
    Numbered ((start settings).run events) ∧ InLine ((start settings).run events) :=
  run_induction_of_orderly (fun _ _ (turn : Turn true _ _) => turn.inLine) (fun _ _ => rfl)
    horderly (numbered_start settings) (.start settings)

end Coordinator

end ValueTrace
