import ValueTrace.Proofs.Coordinator.Line

/-!
# The diaries of runs

What a run has done so far is its part of the history.  It begins with the slot and ends with the
end of the run, and what the run holds in between is what it took and has not given back.

## Main definitions

* `actsIn`, `Coordinator.actsOf` : what a run does in a history.
* `Diary` : what a run at a place has done.
* `WoundUp` : a run is over and has given everything back.
* `Chronicle` : what holds of the history at all times.

## Main results

* `Turn.chronicle` : every turn keeps the history in order.
* `Diary.of_ends` : a run does nothing after its end.
-/

namespace ValueTrace

namespace Coordinator

/-! ### Acts of one run -/

/-- What a run does in a history. -/
def actsIn (history : List (RunId × Act)) (id : RunId) : List Act :=
  history.filterMap fun entry => if entry.1 = id then some entry.2 else none

/-- What a run has done so far. -/
def actsOf (c : Coordinator) (id : RunId) : List Act := actsIn c.history id

variable {c c' : Coordinator} {id a b : RunId} {place : Place} {acts : List Act}

theorem actsIn_append (history history' : List (RunId × Act)) (id : RunId) :
    actsIn (history ++ history') id = actsIn history id ++ actsIn history' id :=
  List.filterMap_append

theorem mem_actsIn {history : List (RunId × Act)} {act : Act} :
    act ∈ actsIn history id ↔ (id, act) ∈ history := by
  rw [actsIn, List.mem_filterMap]
  constructor
  · rintro ⟨⟨other, act'⟩, hmem, heq⟩
    rw [Option.ite_none_right_eq_some, Option.some.injEq] at heq
    obtain ⟨rfl, rfl⟩ := heq
    exact hmem
  · exact fun hmem => ⟨_, hmem, if_pos rfl⟩

theorem actsIn_map_self (acts : List Act) (id : RunId) : actsIn (acts.map (id, ·)) id = acts := by
  simp [actsIn, List.filterMap_map]

theorem actsIn_map_other (acts : List Act) (h : a ≠ id) : actsIn (acts.map (id, ·)) a = [] := by
  simp [actsIn, Ne.symm h]

/-! ### Diaries -/

/-- What a run at a place has done. -/
inductive Diary : Place → List Act → Prop
  | arriving : Diary .arriving []
  | waiting (previous : RunId) : Diary (.waiting previous) [.takesSlot]
  | within {connection debuggee : Bool} {acts : List Act}
      (h : Balance false false acts connection debuggee) :
      Diary (.within connection debuggee) (.takesSlot :: acts)
  | finished {acts : List Act} (h : Balance false false acts false false) :
      Diary .finished (.takesSlot :: acts ++ [.ends])
  | dropped {connection debuggee : Bool} {acts : List Act}
      (h : Balance false false acts connection debuggee) :
      Diary .dropped (.takesSlot :: acts ++ [.ends])

/-- A run is over and has given everything back. -/
structure WoundUp (acts : List Act) : Prop where
  ended : acts.getLast? = some .ends
  closed : acts.count .opens = acts.count .closes
  stopped : acts.countP Act.isOwning = acts.countP Act.isStopping

theorem Diary.of_arriving (h : Diary .arriving acts) : acts = [] := by
  cases h
  rfl

theorem Diary.of_waiting {previous : RunId} (h : Diary (.waiting previous) acts) :
    acts = [.takesSlot] := by
  cases h
  rfl

theorem Diary.enter {previous : RunId} (h : Diary (.waiting previous) acts) :
    Diary (.within false false) acts := by
  cases h
  exact .within (balance_nil false false)

theorem Diary.work {connection debuggee connection' debuggee' : Bool} {more : List Act}
    (h : Diary (.within connection debuggee) acts)
    (hbalance : Balance connection debuggee more connection' debuggee') :
    Diary (.within connection' debuggee') (acts ++ more) := by
  cases h with
  | within hsofar => exact .within (hsofar.append hbalance)

theorem Diary.finish (h : Diary (.within false false) acts) :
    Diary .finished (acts ++ [.ends]) := by
  cases h with
  | within hsofar => exact .finished hsofar

theorem Diary.drop (h : Diary place acts)
    (hallowed : (∃ previous, place = .waiting previous) ∨
      ∃ connection debuggee, place = .within connection debuggee) :
    Diary .dropped (acts ++ [.ends]) := by
  cases h with
  | waiting previous => exact .dropped (balance_nil false false)
  | within hsofar => exact .dropped hsofar
  | arriving | finished h | dropped h => simp at hallowed

theorem Diary.ends_mem (h : Diary place acts) (hdone : place.isDone = true) : .ends ∈ acts := by
  cases h with
  | arriving | waiting previous | within h => exact Bool.noConfusion hdone
  | finished h | dropped h => exact List.mem_append_right _ List.mem_cons_self

theorem not_ends_mem_of_work (hwork : ∀ act ∈ acts, act.isWork = true) :
    .ends ∉ Act.takesSlot :: acts := by
  intro hmem
  rcases List.mem_cons.1 hmem with heq | hmem
  · cases heq
  · exact Bool.noConfusion (hwork _ hmem)

/-- A run that has ended is over. -/
theorem Diary.place_of_ends (h : Diary place acts) (hends : .ends ∈ acts) :
    place = .finished ∨ place = .dropped := by
  cases h with
  | arriving => exact absurd hends List.not_mem_nil
  | waiting previous => simp at hends
  | within h => exact absurd hends (not_ends_mem_of_work h.work)
  | finished h => exact Or.inl rfl
  | dropped h => exact Or.inr rfl

/-- Nothing comes after an element that stands only at the end. -/
theorem eq_nil_of_append_eq_concat {α : Type} {l l' init : List α} {x : α}
    (h : l ++ l' = init ++ [x]) (hmem : x ∈ l) (hinit : x ∉ init) : l' = [] := by
  rcases List.eq_nil_or_concat l' with rfl | ⟨l', y, rfl⟩
  · rfl
  · rw [List.concat_eq_append, ← List.append_assoc] at h
    obtain ⟨rfl, -⟩ := List.append_inj' h rfl
    exact absurd (List.mem_append_left _ hmem) hinit

/-- A run does nothing after its end. -/
theorem Diary.of_ends {before after : List Act} (h : Diary place (before ++ after))
    (hends : .ends ∈ before) : after = [] := by
  have hall : Act.ends ∈ before ++ after := List.mem_append_left _ hends
  generalize hacts : before ++ after = acts at h hall
  cases h with
  | arriving => exact absurd hall List.not_mem_nil
  | waiting previous => simp at hall
  | within h => exact absurd hall (not_ends_mem_of_work h.work)
  | finished h | dropped h =>
    exact eq_nil_of_append_eq_concat hacts hends (not_ends_mem_of_work h.work)

/-- A run that has finished is wound up. -/
theorem Diary.woundUp (h : Diary .finished acts) : WoundUp acts := by
  cases h with
  | finished h =>
    obtain ⟨-, hconnection, hdebuggee⟩ := h
    refine ⟨List.getLast?_concat, ?_, ?_⟩
    · simpa [List.count_append, List.count_cons] using hconnection
    · simpa [List.countP_append, List.countP_cons, Act.isOwning, Act.isStopping] using hdebuggee

/-! ### The history -/

/-- What holds of the history of a coordinator at all times. -/
structure Chronicle (c : Coordinator) : Prop where
  /-- The history tells of each run what it did. -/
  diary : ∀ id place, c.place? id = some place → Diary place (c.actsOf id)
  /-- The history tells of no other run. -/
  known : ∀ id, c.place? id = none → c.actsOf id = []
  /-- What a run does after it took the slot comes after the ends of all runs ahead of it. -/
  order : ∀ before id act after, c.history = before ++ (id, act) :: after → act ≠ .takesSlot →
    ∀ a, c.Ahead a id → (a, Act.ends) ∈ before

namespace Chronicle

/-- The end of a run that is over has been noted. -/
theorem ends_mem (h : Chronicle c) (hover : c.Over a) : (a, Act.ends) ∈ c.history := by
  obtain ⟨place, hplace, hdone⟩ := hover
  exact mem_actsIn.1 ((h.diary a place hplace).ends_mem hdone)

/-- A place in a history that grew is one in the old history or among the new entries. -/
theorem split_append {α : Type} {l l' before after : List α} {x : α}
    (h : l ++ l' = before ++ x :: after) :
    (∃ rest, l = before ++ x :: rest) ∨ ∃ more, before = l ++ more ∧ x ∈ l' := by
  rcases List.append_eq_append_iff.1 h with ⟨more, hbefore, hl'⟩ | ⟨more, hl, hrest⟩
  · exact Or.inr ⟨more, hbefore, hl' ▸ List.mem_append_right _ List.mem_cons_self⟩
  · cases more with
    | nil =>
      refine Or.inr ⟨[], by rw [hl, List.append_nil, List.append_nil], ?_⟩
      rw [List.nil_append] at hrest
      exact hrest ▸ List.mem_cons_self
    | cons y more =>
      obtain ⟨rfl, rfl⟩ := List.cons.inj hrest
      exact Or.inl ⟨more, hl⟩

/-- One run moves and does something, with only runs ahead of it that are over. -/
theorem put (h : Chronicle c) (hplaces : Puts c c' id place)
    (hhistory : c'.history = c.history ++ acts.map (id, ·))
    (hdiary : Diary place (c.actsOf id ++ acts))
    (hahead : ∀ a b, c'.Ahead a b → c.Ahead a b ∨ b = id ∧ c.actsOf id = [])
    (hclear : ∀ act ∈ acts, act ≠ .takesSlot → ∀ a, c'.Ahead a id → c.Over a) :
    Chronicle c' := by
  have hacts (other : RunId) (hother : other ≠ id) : c'.actsOf other = c.actsOf other := by
    rw [actsOf, hhistory, actsIn_append, actsIn_map_other acts hother, List.append_nil, actsOf]
  constructor
  · intro other place' hplace
    obtain ⟨rfl, rfl⟩ | ⟨hother, hplace⟩ := hplaces.cases hplace
    · rw [actsOf, hhistory, actsIn_append, actsIn_map_self]
      exact hdiary
    · rw [hacts other hother]
      exact h.diary other place' hplace
  · intro other hplace
    have hother : other ≠ id := by
      rintro rfl
      rw [hplaces.self] at hplace
      cases hplace
    rw [hacts other hother]
    exact h.known other ((hplaces.other hother).symm.trans hplace)
  · intro before other act after hsplit hact a ha
    rcases split_append (hhistory.symm.trans hsplit) with ⟨rest, hold⟩ | ⟨more, rfl, hnew⟩
    · rcases hahead a other ha with ha | ⟨rfl, hnone⟩
      · exact h.order before other act rest hold hact a ha
      · have hmem : act ∈ c.actsOf other :=
          mem_actsIn.2 (hold ▸ List.mem_append_right before List.mem_cons_self)
        rw [hnone] at hmem
        exact absurd hmem List.not_mem_nil
    · obtain ⟨act', hact', heq⟩ := List.mem_map.1 hnew
      obtain ⟨rfl, rfl⟩ := Prod.mk.inj heq
      exact List.mem_append_left more (h.ends_mem (hclear act' hact' hact a ha))

theorem start (settings : EngineSettings) : Chronicle (Coordinator.start settings) where
  diary id place hplace := by simp [Coordinator.start, place?, run?] at hplace
  known _ _ := rfl
  order before id act after h := by simp [Coordinator.start] at h

/-- A history depends on the places and on what was done. -/
theorem of_same (h : Chronicle c) (hplaces : ∀ other, c'.place? other = c.place? other)
    (hhistory : c'.history = c.history) : Chronicle c' := by
  have hacts (id : RunId) : c'.actsOf id = c.actsOf id := by rw [actsOf, hhistory, actsOf]
  have hahead (a b : RunId) : c'.Ahead a b ↔ c.Ahead a b := by
    rw [Ahead, takers, hhistory, Ahead, takers]
  constructor
  · intro id place hplace
    rw [hacts]
    exact h.diary id place ((hplaces id).symm.trans hplace)
  · intro id hplace
    rw [hacts]
    exact h.known id ((hplaces id).symm.trans hplace)
  · intro before id act after hsplit hact a ha
    exact h.order before id act after (hhistory.symm.trans hsplit) hact a ((hahead a id).1 ha)

end Chronicle

/-- Every turn keeps the history in order. -/
theorem Turn.chronicle {away : Bool} (turn : Turn away c c') (hline : InLine c)
    (h : Chronicle c) : Chronicle c' := by
  have hkept {acts : List Act} {id : RunId} (hacts : ∀ act ∈ acts, act ≠ .takesSlot)
      (hhistory : c'.history = c.history ++ acts.map (id, ·)) (a b : RunId)
      (ha : c'.Ahead a b) : c.Ahead a b := by
    rwa [Ahead, takers_append_work hacts hhistory] at ha
  cases turn with
  | idle hplaces hactive hhistory => exact h.of_same hplaces hhistory
  | @arrive id hnew hplaces hactive hhistory =>
    have hhistory : c'.history = c.history ++ ([] : List Act).map (id, ·) := by simpa using hhistory
    refine h.put hplaces hhistory ?_ (fun a b ha => Or.inl (hkept (by simp) hhistory a b ha))
      (by simp)
    rw [h.known id hnew]
    exact .arriving
  | @take id hbefore hplaces hactive hhistory =>
    have hnone : c.actsOf id = [] := (h.diary id _ hbefore).of_arriving
    have htakers : c'.takers = c.takers ++ [id] := by
      rw [takers, hhistory, List.filterMap_append]
      rfl
    have hhistory : c'.history = c.history ++ [Act.takesSlot].map (id, ·) := hhistory
    refine h.put hplaces hhistory ?_ (fun a b ha => ?_) (by simp)
    · rw [hnone]
      cases c.active with
      | none => exact .within (balance_nil false false)
      | some previous => exact .waiting previous
    · exact ((ahead_concat htakers).1 ha).imp_right fun hab => ⟨hab.2, hnone⟩
  | @enter id previous hbefore hdone hplaces hactive hhistory =>
    have hhistory : c'.history = c.history ++ ([] : List Act).map (id, ·) := by simpa using hhistory
    refine h.put hplaces hhistory ?_ (fun a b ha => Or.inl (hkept (by simp) hhistory a b ha))
      (by simp)
    rw [List.append_nil]
    exact (h.diary id _ hbefore).enter
  | @work id _ _ _ _ acts hbefore hplaces hactive hhistory hbalance =>
    have hahead := hkept (fun act hact => Act.ne_takesSlot_of_isWork (hbalance.work act hact))
      hhistory
    exact h.put hplaces hhistory ((h.diary id _ hbefore).work hbalance)
      (fun a b ha => Or.inl (hahead a b ha))
      fun _ _ _ a ha => hline.started id _ hbefore rfl a (hahead a id ha)
  | @finish id _ _ acts hbefore hplaces hactive hhistory hbalance =>
    have hacts : ∀ act ∈ acts ++ [.ends], act ≠ .takesSlot := by
      intro act hact
      rcases List.mem_append.1 hact with hact | hact
      · exact Act.ne_takesSlot_of_isWork (hbalance.work act hact)
      · simp [List.mem_singleton.1 hact]
    have hahead := hkept hacts hhistory
    refine h.put hplaces hhistory ?_ (fun a b ha => Or.inl (hahead a b ha))
      fun _ _ _ a ha => hline.started id _ hbefore rfl a (hahead a id ha)
    rw [← List.append_assoc]
    exact ((h.diary id _ hbefore).work hbalance).finish
  | @drop id place haway hbefore hallowed hplaces hactive hhistory =>
    have hhistory : c'.history = c.history ++ [Act.ends].map (id, ·) := hhistory
    have hahead := hkept (by simp) hhistory
    refine h.put hplaces hhistory ((h.diary id _ hbefore).drop ?_)
      (fun a b ha => Or.inl (hahead a b ha)) fun _ _ _ a ha => ?_
    · exact hallowed.imp_left fun hwaiting => hwaiting.imp fun _ hprevious => hprevious.1
    · rcases hallowed with ⟨previous, rfl, hdone⟩ | ⟨connection, debuggee, rfl⟩
      · exact hline.over_of_previous hbefore hdone a (hahead a id ha)
      · exact hline.started id _ hbefore rfl a (hahead a id ha)

end Coordinator

end ValueTrace
