import Mathlib.Data.List.Induction
import Mathlib.Data.List.Nodup
import ValueTrace.Proofs.Inspector.Waiting

/-!
# Who hears what

A waiter hears one frame, an observer all that concern it.  Both are served by one list that changes
while a frame is on its way through it, and yet what each of them gets depends on nothing but the
operations after its own registration: a waiter holds the first frame that it accepts before it is
given up and before the connection ends (`Waits.receipt_run`), and an observer sees what it observes
in every text until it is ended (`Connection.ObserverNumber.filter_sightings_run`).

## Main definitions

* `Receipt.next` : what a waiter has after an operation.
* `Subscriber.sees` : what an observer sees of a text.
* `Connection.firstAccepted?` : the first frame for a waiter in a sequence of operations.
* `Connection.textsUntilOff` : the texts for an observer in a sequence of operations.
* `Connection.keeps`, `Connection.added` : what an operation leaves and adds.
* `Distinct` : every number belongs to one listener.

## Main results

* `Connection.subscriptions_apply` : what an operation does to the subscriptions.
* `Connection.sightings_receive` : what all observers see of a text.
* `subscription_exists_iff` : which observers are registered.
* `listeners_served` : what waiters hold and observers see after every sequence of operations.
-/

namespace ValueTrace.Inspector

/-! ### Operations and texts -/

/-- The observer that the operation registers. -/
def Connection.Operation.observer? : Connection.Operation → Option Subscriber
  | .observe method => some (.every method)
  | .observeMalformed => some .malformed
  | _ => none

/-- Whether an operation ends a subscription. -/
def Connection.Operation.drops (id : SubscriptionId) : Connection.Operation → Bool
  | .off other => other = id
  | _ => false

/-- Whether an operation reads the frame of a waiter. -/
def Connection.Operation.reads (id : SubscriptionId) : Connection.Operation → Bool
  | .take other => other = id
  | _ => false

/-- The text that an operation brings. -/
def Connection.Operation.text? : Connection.Operation → Option String
  | .receive text => some text
  | _ => none

/-- The frame that an operation brings. -/
def Connection.Operation.frame? : Connection.Operation → Option Inbound
  | .receive text => (Inbound.ofText? text).toOption
  | _ => none

/-- The observer that has seen something. -/
def Sighting.observer : Sighting → SubscriptionId
  | .notification observer _ => observer
  | .malformed observer _ _ => observer

/-- What a subscriber with a number sees of a text: the notification of its method that the text is,
or a text that is no frame. -/
def Subscriber.sees (s : Subscriber) (id : SubscriptionId) (text : String) : Option Sighting :=
  match s, Inbound.ofText? text with
  | .every method, .ok (.notification n) =>
    if n.method = method then some (.notification id n) else none
  | .malformed, .error e => some (.malformed id text e)
  | _, _ => none

/-- The first frame that a waiter accepts, before it is given up and before the connection ends. -/
def Connection.firstAccepted? (accepts : Inbound → Bool) (id : SubscriptionId)
    (operations : List Connection.Operation) : Option Inbound :=
  ((operations.takeWhile fun o => !(o.drops id || o.ends)).filterMap
    Connection.Operation.frame?).find? accepts

/-- The texts that arrive before a subscription is ended. -/
def Connection.textsUntilOff (id : SubscriptionId) (operations : List Connection.Operation) :
    List String :=
  (operations.takeWhile fun o => !o.drops id).filterMap Connection.Operation.text?

/-- The subscriptions with a number. -/
def Connection.under (c : Connection) (id : SubscriptionId) : List Subscription :=
  c.registry.subscriptions.filter fun s => s.id = id

theorem Subscriber.observer_of_sees {s : Subscriber} {id : SubscriptionId} {text : String}
    {sighting : Sighting} (h : s.sees id text = some sighting) : sighting.observer = id := by
  unfold sees at h
  split at h
  · rw [Option.ite_none_right_eq_some, Option.some.injEq] at h
    rw [← h.2]
    rfl
  · rw [← Option.some.inj h]
    rfl
  · cases h

/-! ### What a text is to the observers -/

/-- Of a frame a subscriber sees the notification that it is, if it looks at it. -/
theorem Subscriber.sees_of_ok {text : String} {m : Inbound} (ht : Inbound.ofText? text = .ok m)
    (s : Subscriber) (id : SubscriptionId) :
    s.sees id text =
      if s.observes m then m.notification?.map (Sighting.notification id) else none := by
  unfold sees observes reaction
  rw [ht]
  cases s with
  | once accepts => by_cases h : accepts m <;> simp [h]
  | every method =>
    cases m with
    | response r => rfl
    | notification n =>
      by_cases h : n.method = method <;> simp [Inbound.method?, Inbound.notification?, h]
  | malformed => rfl

/-- A text that is no frame is seen by those who look for such texts. -/
theorem Subscriber.sees_of_error {text : String} {e : FrameError}
    (ht : Inbound.ofText? text = .error e) (s : Subscriber) (id : SubscriptionId) :
    s.sees id text = if s.isMalformed then some (.malformed id text e) else none := by
  unfold sees
  rw [ht]
  cases s <;> rfl

theorem sightingsOf_eq (observers : List SubscriptionId) (m : Inbound) :
    Connection.sightingsOf observers m =
      observers.filterMap fun id => m.notification?.map (Sighting.notification id) := by
  cases m with
  | response r => simp [Connection.sightingsOf, Inbound.notification?]
  | notification n => simp [Connection.sightingsOf, Inbound.notification?]

namespace Connection

/-- Every observer sees of a text what concerns it, in the order of the list. -/
theorem sightings_receive (c : Connection) (text : String) :
    (c.receive text).sightings =
      c.sightings ++ c.registry.subscriptions.filterMap fun s => s.subscriber.sees s.id text := by
  rw [receive]
  split
  · rename_i m ht
    rw [dispatch]
    obtain ⟨calls, heq⟩ := deliverReply_eq _ (c.registry.dispatch m).reply
    rw [heq]
    dsimp only
    rw [Registry.observers_dispatch, sightingsOf_eq, List.filterMap_map, List.filterMap_filter]
    simp only [Subscriber.sees_of_ok ht, Function.comp_apply]
  · rename_i e ht
    dsimp only
    rw [Registry.malformedObservers, List.map_map, ← List.filterMap_eq_map, List.filterMap_filter]
    simp only [Subscriber.sees_of_error ht, Function.comp_apply]

/-- Observers see nothing but texts. -/
theorem sightings_apply (c : Connection) (operation : Operation) :
    (c.apply operation).sightings = c.sightings ++ operation.text?.toList.flatMap fun text =>
      c.registry.subscriptions.filterMap fun s => s.subscriber.sees s.id text := by
  have hsame (d : Connection) (h : d.sightings = c.sightings) : d.sightings = c.sightings ++ [] :=
    h.trans (List.append_nil _).symm
  cases operation with
  | receive text =>
    rw [apply, sightings_receive, Operation.text?, Option.toList_some, List.flatMap_singleton]
  | enroll id =>
    refine hsame _ ?_
    simp only [apply, enroll]
    split
    · split <;> rfl
    · rfl
  | write id =>
    refine hsame _ ?_
    simp only [apply, write]
    split
    · split <;> rfl
    · rfl
  | refuse id =>
    refine hsame _ ?_
    simp only [apply, refuse]
    split
    · split <;> rfl
    · rfl
  | expire id =>
    refine hsame _ ?_
    simp only [apply, expire]
    split <;> rfl
  | take id =>
    refine hsame _ ?_
    simp only [apply, take]
    split <;> rfl
  | _ => exact hsame _ rfl

end Connection

/-! ### Numbers are not shared -/

/-- No number belongs to two subscriptions, or to two frames that are held, or to one of each, and
observers that have seen something have their numbers. -/
structure Distinct (c : Connection) : Prop where
  nodup : (c.registry.subscriptions.map Subscription.id ++ c.held.map Prod.fst).Nodup
  seen : ∀ sighting ∈ c.sightings, sighting.observer ≤ c.registry.lastSubscription

namespace Distinct

variable {c : Connection} {id : SubscriptionId}

theorem held (h : Distinct c) : (c.held.map Prod.fst).Nodup := (List.nodup_append'.1 h.nodup).2.1

theorem subscriptions (h : Distinct c) : (c.registry.subscriptions.map Subscription.id).Nodup :=
  (List.nodup_append'.1 h.nodup).1

/-- The owner of a held frame is not registered any more. -/
theorem isRegistered_eq_false (h : Distinct c) {m : Inbound} (hr : c.receipt id = .frame m) :
    c.registry.isRegistered id = false := by
  rw [Bool.eq_false_iff]
  intro hregistered
  obtain ⟨s, hs, hid⟩ := List.any_eq_true.1 hregistered
  have hheld := List.mem_of_find?_eq_some (Connection.receipt_eq_frame_iff.1 hr)
  refine (List.nodup_append'.1 h.nodup).2.2 (List.mem_map.2 ⟨s, hs, of_decide_eq_true hid⟩) ?_
  exact List.mem_map.2 ⟨_, hheld, rfl⟩

/-- At most one frame is held for a waiter, the one that it gets. -/
theorem held_filter (h : Distinct c) (id : SubscriptionId) :
    c.held.filter (fun h => h.1 = id) = (c.held.find? fun h => h.1 = id).toList := by
  have hnodup := h.held
  generalize c.held = held at hnodup ⊢
  induction held with
  | nil => rfl
  | cons first rest ih =>
    rw [List.map_cons, List.nodup_cons] at hnodup
    by_cases hid : first.1 = id
    · have hnone : rest.filter (fun h => h.1 = id) = [] := by
        rw [List.filter_eq_nil_iff]
        intro other hother heq
        refine hnodup.1 (List.mem_map.2 ⟨other, hother, ?_⟩)
        exact (of_decide_eq_true heq).trans hid.symm
      simp only [List.filter_cons, List.find?_cons, hid, hnone, decide_true, if_true,
        Option.toList_some]
    · simp only [List.filter_cons, List.find?_cons, hid, decide_false]
      exact ih hnodup.2

/-- Distinct numbers stay so when listeners and held frames only go. -/
theorem nodup_of_sublist (h : Distinct c) {subscriptions : List Subscription}
    {held : List (SubscriptionId × Inbound)}
    (hsubscriptions : subscriptions.Sublist c.registry.subscriptions)
    (hheld : held.Sublist c.held) :
    (subscriptions.map Subscription.id ++ held.map Prod.fst).Nodup :=
  h.nodup.sublist ((hsubscriptions.map _).append (hheld.map _))

/-- A new subscription has a number of its own. -/
theorem nodup_register (h : Distinct c) (hn : Numbered c) (s : Subscriber) :
    ((c.registry.register s).1.subscriptions.map Subscription.id ++ c.held.map Prod.fst).Nodup := by
  rw [Registry.register, List.map_append, List.map_singleton, List.append_assoc,
    List.singleton_append, List.nodup_middle, List.nodup_cons, List.mem_append, List.mem_map,
    List.mem_map]
  refine ⟨?_, h.nodup⟩
  rintro (⟨t, ht, heq⟩ | ⟨t, ht, heq⟩)
  · exact absurd (heq ▸ hn.subscriptions t ht) (Nat.not_succ_le_self _)
  · exact absurd (heq ▸ hn.held t ht) (Nat.not_succ_le_self _)

/-- A frame moves the numbers of its takers from the subscriptions to the held frames. -/
theorem nodup_dispatch (h : Distinct c) (m : Inbound) :
    ((c.dispatch m).registry.subscriptions.map Subscription.id ++
      (c.dispatch m).held.map Prod.fst).Nodup := by
  obtain ⟨-, -, -, hregistry, hheld⟩ := c.dispatch_eq m
  have htakers : ((c.registry.dispatch m).takers.map fun id => (id, m)).map Prod.fst =
      (c.registry.subscriptions.filter fun s => s.subscriber.takes m).map Subscription.id := by
    rw [List.map_map, Registry.takers_dispatch]
    exact List.map_id _
  rw [hregistry, hheld, Registry.subscriptions_dispatch, List.map_append, htakers]
  refine h.nodup.perm ?_
  have hsplit := (List.filter_append_perm (fun s : Subscription => s.subscriber.takes m)
    c.registry.subscriptions).map Subscription.id
  rw [List.map_append] at hsplit
  have hmove := hsplit.symm.append_right (c.held.map Prod.fst)
  rw [List.append_assoc] at hmove
  rw [← List.append_assoc]
  exact hmove.trans List.perm_append_comm

/-- Every operation keeps the numbers distinct. -/
theorem nodup_apply (h : Distinct c) (hn : Numbered c) (operation : Connection.Operation) :
    ((c.apply operation).registry.subscriptions.map Subscription.id ++
      (c.apply operation).held.map Prod.fst).Nodup := by
  have hsame {d : Connection} (hd : SameListeners c d) :
      (d.registry.subscriptions.map Subscription.id ++ d.held.map Prod.fst).Nodup := by
    rw [hd.subscriptions, hd.held]
    exact h.nodup
  cases operation with
  | enroll id => exact hsame (c.sameListeners_enroll id)
  | write id => exact hsame (c.sameListeners_write id)
  | refuse id => exact hsame (c.sameListeners_refuse id)
  | expire id => exact hsame (c.sameListeners_expire id)
  | subscribe accepts =>
    simp only [Connection.apply, Connection.subscribe, Registry.registerOnce]
    split
    · exact h.nodup
    · exact h.nodup_register hn _
  | observe method => exact h.nodup_register hn _
  | observeMalformed => exact h.nodup_register hn _
  | off id =>
    exact h.nodup_of_sublist List.filter_sublist (List.Sublist.refl _)
  | take id =>
    simp only [Connection.apply, Connection.take]
    split
    · exact h.nodup_of_sublist (List.Sublist.refl _) List.filter_sublist
    · exact h.nodup
  | receive text =>
    simp only [Connection.apply, Connection.receive]
    split
    · exact h.nodup_dispatch _
    · exact h.nodup
  | hangUp =>
    simp only [Connection.apply, Connection.hangUp, Registry.close]
    split
    · exact h.nodup
    · exact h.nodup_of_sublist List.filter_sublist (List.Sublist.refl _)
  | issue method params => exact h.nodup
  | readAnswer id => exact h.nodup
  | abandon id => exact h.nodup

theorem apply (h : Distinct c) (hn : Numbered c) (operation : Connection.Operation) :
    Distinct (c.apply operation) := by
  refine ⟨h.nodup_apply hn operation, fun sighting hs => ?_⟩
  have hle := c.lastSubscription_le_run [operation]
  rw [c.sightings_apply, List.mem_append, List.mem_flatMap] at hs
  rcases hs with hold | ⟨text, -, hnew⟩
  · exact Nat.le_trans (h.seen sighting hold) hle
  · obtain ⟨s, hs, hsees⟩ := List.mem_filterMap.1 hnew
    rw [Subscriber.observer_of_sees hsees]
    exact Nat.le_trans (hn.subscriptions s hs) hle

end Distinct

theorem distinct_run (bound : Option Duration) (operations : List Connection.Operation) :
    Distinct ((Connection.opened bound).run operations) := by
  induction operations using List.reverseRecOn with
  | nil => exact ⟨List.nodup_nil, fun _ h => by cases h⟩
  | append_singleton operations operation ih =>
    rw [Connection.run_concat]
    exact ih.apply ((numbered_opened bound).run operations) operation

/-! ### Waiters -/

/-- What a waiter has after an operation. -/
def Receipt.next (accepts : Inbound → Bool) (id : SubscriptionId) (r : Receipt) :
    Connection.Operation → Receipt
  | .receive text =>
    match Inbound.ofText? text with
    | .ok m => r.after accepts m
    | .error _ => r
  | .hangUp => r.atEnd
  | .off other => if other = id then r.atEnd else r
  | .take other =>
    match r with
    | .frame m => if other = id then .closed else .frame m
    | r => r
  | _ => r

namespace Connection

variable {c : Connection} {id : SubscriptionId}

theorem find?_held_of_receipt {r : Receipt} (h : c.receipt id = r) (hr : ∀ m, r ≠ .frame m) :
    (c.held.find? fun h => h.1 = id) = none := by
  cases hfind : c.held.find? fun h => h.1 = id with
  | none => rfl
  | some found =>
    have hid : found.1 = id := by simpa using List.find?_some hfind
    have hframe : c.receipt id = .frame found.2 := by rw [receipt_eq_frame_iff, hfind, ← hid]
    exact absurd (h.symm.trans hframe) (hr found.2)

/-- A waiter that is given up gets nothing any more. -/
theorem receipt_off_self (c : Connection) (id : SubscriptionId) :
    (c.off id).1.receipt id = (c.receipt id).atEnd := by
  have hgone : (c.off id).1.registry.isRegistered id = false := by
    rw [Registry.isRegistered, Bool.eq_false_iff, ne_eq, List.any_eq_true]
    rintro ⟨s, hs, hid⟩
    exact of_decide_eq_true (List.mem_filter.1 hs).2 (of_decide_eq_true hid)
  have hheld : (c.off id).1.held = c.held := rfl
  unfold receipt
  rw [hheld, hgone]
  split
  · rfl
  · simp only [Bool.false_eq_true, if_false]
    split <;> rfl

end Connection

namespace Waits

variable {c : Connection} {id : SubscriptionId} {accepts : Inbound → Bool}

/-- A frame that was read is gone for its waiter. -/
theorem receipt_take_self (hd : Distinct c) :
    (c.take id).1.receipt id = (c.receipt id).next accepts id (.take id) := by
  cases hr : c.receipt id with
  | frame m =>
    have hfind := Connection.receipt_eq_frame_iff.1 hr
    have hnone : ((c.take id).1.held.find? fun h => h.1 = id) = none := by
      rw [Connection.take, hfind, List.find?_eq_none]
      intro held hheld heq
      exact of_decide_eq_true (List.mem_filter.1 hheld).2 (of_decide_eq_true heq)
    have hregistry : (c.take id).1.registry = c.registry := by
      rw [Connection.take, hfind]
    rw [Connection.receipt_of_not_held hnone, hregistry, hd.isRegistered_eq_false hr]
    simp [Receipt.next]
  | closed =>
    have hfind := Connection.find?_held_of_receipt hr fun _ h => Receipt.noConfusion h
    rw [Connection.take, hfind]
    exact hr
  | waiting =>
    have hfind := Connection.find?_held_of_receipt hr fun _ h => Receipt.noConfusion h
    rw [Connection.take, hfind]
    exact hr

/-- What a waiter has after an operation depends on what it had alone. -/
theorem receipt_apply_eq (h : Waits c id accepts) (hn : Numbered c) (hd : Distinct c)
    (operation : Connection.Operation) :
    (c.apply operation).receipt id = (c.receipt id).next accepts id operation := by
  cases operation with
  | off other =>
    rw [Receipt.next]
    split_ifs with hid
    · rw [hid]
      exact c.receipt_off_self id
    · exact receipt_off hid
  | take other =>
    by_cases hid : other = id
    · rw [hid]
      exact receipt_take_self hd
    · have hkept : (c.take other).1.receipt id = c.receipt id := receipt_take hid
      rw [Connection.apply, hkept]
      cases c.receipt id with
      | frame m => exact (if_neg hid).symm
      | closed => rfl
      | waiting => rfl
  | receive text =>
    cases ht : Inbound.ofText? text with
    | ok m =>
      simp only [Connection.apply, Connection.receive, Receipt.next, ht]
      exact h.receipt_dispatch m
    | error e =>
      simp only [Connection.apply, Connection.receive, Receipt.next, ht]
      rfl
  | hangUp => exact h.receipt_hangUp hn
  | issue method params => exact h.receipt_apply rfl
  | enroll number => exact h.receipt_apply rfl
  | write number => exact h.receipt_apply rfl
  | refuse number => exact h.receipt_apply rfl
  | readAnswer number => exact h.receipt_apply rfl
  | expire number => exact h.receipt_apply rfl
  | abandon number => exact h.receipt_apply rfl
  | subscribe accepts => exact h.receipt_apply rfl
  | observe method => exact h.receipt_apply rfl
  | observeMalformed => exact h.receipt_apply rfl

/-- The receipt of a waiter is read off the operations after its registration. -/
theorem receipt_run (h : Waits c id accepts) (hn : Numbered c) (hd : Distinct c)
    (operations : List Connection.Operation) :
    (c.run operations).receipt id = operations.foldl (Receipt.next accepts id) (c.receipt id) := by
  induction operations generalizing c with
  | nil => rfl
  | cons operation rest ih =>
    rw [List.foldl_cons, ← h.receipt_apply_eq hn hd operation]
    exact ih (h.apply operation) (hn.apply operation) (hd.apply hn operation)

end Waits

/-! ### The first frame for a waiter -/

namespace Receipt

variable (accepts : Inbound → Bool) (id : SubscriptionId)

theorem next_closed (operation : Connection.Operation) :
    Receipt.closed.next accepts id operation = .closed := by
  cases operation with
  | receive text =>
    rw [next]
    split <;> rfl
  | off other =>
    rw [next]
    split <;> rfl
  | _ => rfl

theorem foldl_next_closed (operations : List Connection.Operation) :
    operations.foldl (next accepts id) .closed = .closed := by
  induction operations with
  | nil => rfl
  | cons operation rest ih => rw [List.foldl_cons, next_closed, ih]

/-- A frame stays with its waiter until it is read. -/
theorem next_frame (m : Inbound) (operation : Connection.Operation) :
    (Receipt.frame m).next accepts id operation =
      if operation.reads id then .closed else .frame m := by
  cases operation with
  | receive text =>
    rw [next]
    split <;> rfl
  | off other =>
    rw [next]
    split <;> rfl
  | take other => by_cases h : other = id <;> simp [next, Connection.Operation.reads, h]
  | _ => rfl

theorem foldl_next_frame (m : Inbound) (operations : List Connection.Operation) :
    operations.foldl (next accepts id) (.frame m) =
      if operations.any (·.reads id) then .closed else .frame m := by
  induction operations with
  | nil => rfl
  | cons operation rest ih =>
    rw [List.foldl_cons, next_frame, List.any_cons]
    cases operation.reads id with
    | true => exact foldl_next_closed accepts id rest
    | false => exact ih

/-- A waiter that waits gets the first frame that it accepts, and nothing after it is given up or
the connection has ended. -/
theorem next_waiting (operation : Connection.Operation) :
    Receipt.waiting.next accepts id operation =
      if operation.drops id || operation.ends then .closed
      else match operation.frame?.filter accepts with
        | some m => .frame m
        | none => .waiting := by
  cases operation with
  | receive text =>
    cases ht : Inbound.ofText? text with
    | error e => simp [next, ht, Connection.Operation.drops, Connection.Operation.ends,
        Connection.Operation.frame?, Except.toOption]
    | ok m =>
      by_cases h : accepts m <;> simp [next, ht, after, h, Connection.Operation.drops,
        Connection.Operation.ends, Connection.Operation.frame?, Except.toOption, Option.filter]
  | off other =>
    by_cases h : other = id <;> simp [next, Connection.Operation.drops, h,
      Connection.Operation.ends, Connection.Operation.frame?, atEnd]
  | _ => rfl

end Receipt

theorem Connection.firstAccepted?_cons (accepts : Inbound → Bool) (id : SubscriptionId)
    (operation : Operation) (rest : List Operation) :
    firstAccepted? accepts id (operation :: rest) =
      if operation.drops id || operation.ends then none
      else (operation.frame?.filter accepts).or (firstAccepted? accepts id rest) := by
  rw [firstAccepted?, List.takeWhile_cons]
  cases hstop : operation.drops id || operation.ends with
  | true => rfl
  | false =>
    simp only [Bool.not_false, if_true, Bool.false_eq_true, if_false]
    cases hframe : operation.frame? with
    | none =>
      rw [List.filterMap_cons_none hframe]
      rfl
    | some m =>
      rw [List.filterMap_cons_some hframe, List.find?_cons]
      by_cases h : accepts m <;> simp [h, Option.filter, firstAccepted?]

/-- A waiter that waits gets at most the first frame that it accepts. -/
theorem Receipt.eq_frame_of_foldl {accepts : Inbound → Bool} {id : SubscriptionId}
    {operations : List Connection.Operation} {m : Inbound}
    (h : operations.foldl (next accepts id) .waiting = .frame m) :
    Connection.firstAccepted? accepts id operations = some m := by
  induction operations with
  | nil => exact Receipt.noConfusion h
  | cons operation rest ih =>
    rw [List.foldl_cons, next_waiting] at h
    rw [Connection.firstAccepted?_cons]
    split_ifs at h ⊢ with hstop
    · rw [foldl_next_closed] at h
      exact Receipt.noConfusion h
    · cases hframe : operation.frame?.filter accepts with
      | none =>
        rw [hframe] at h
        exact ih h
      | some found =>
        rw [hframe] at h
        dsimp only at h
        rw [foldl_next_frame] at h
        split_ifs at h
        exact congrArg some (Receipt.frame.inj h)

/-- A waiter whose frame nobody reads has the first frame that it accepts, and without one it waits
until it is given up or the connection ends. -/
theorem Receipt.foldl_next_waiting {accepts : Inbound → Bool} {id : SubscriptionId}
    {operations : List Connection.Operation} (hunread : operations.any (·.reads id) = false) :
    operations.foldl (next accepts id) .waiting =
      match Connection.firstAccepted? accepts id operations with
      | some m => .frame m
      | none => if operations.any (fun o => o.drops id || o.ends) then .closed else .waiting := by
  induction operations with
  | nil => rfl
  | cons operation rest ih =>
    rw [List.any_cons, Bool.or_eq_false_iff] at hunread
    rw [List.foldl_cons, next_waiting, Connection.firstAccepted?_cons, List.any_cons]
    cases hstop : operation.drops id || operation.ends with
    | true => exact foldl_next_closed accepts id rest
    | false =>
      simp only [Bool.false_eq_true, if_false, Bool.false_or]
      cases hframe : operation.frame?.filter accepts with
      | none => exact ih hunread.2
      | some m =>
        dsimp only [Option.some_or]
        rw [foldl_next_frame, hunread.2]
        rfl

/-! ### Observers -/

/-- Of what the subscriptions see of a text, an observer has seen what its own one sees. -/
theorem filter_sees (subscriptions : List Subscription) (id : SubscriptionId) (text : String) :
    (subscriptions.filterMap fun s => s.subscriber.sees s.id text).filter
        (fun sighting => sighting.observer = id) =
      (subscriptions.filter fun s => s.id = id).filterMap fun s => s.subscriber.sees id text := by
  rw [List.filter_filterMap, List.filterMap_filter]
  congr 1
  funext s
  cases hsees : s.subscriber.sees s.id text with
  | none =>
    split_ifs with hid
    · rw [← of_decide_eq_true hid, hsees]
      rfl
    · rfl
  | some sighting =>
    have hobserver := Subscriber.observer_of_sees hsees
    by_cases hid : s.id = id
    · subst hid
      simp [Option.filter, hobserver, hsees]
    · simp [Option.filter, hobserver, hid]

/-- Only a waiter takes a frame. -/
theorem takes_of_not_once {s : Subscriber} (h : s.isOnce = false) (m : Inbound) :
    s.takes m = false := by
  cases s with
  | once accepts => exact Bool.noConfusion h
  | every method =>
    rw [Subscriber.takes, Subscriber.reaction]
    split <;> rfl
  | malformed => rfl

namespace Connection

variable {c : Connection} {id : SubscriptionId}

theorem text?_of_drops {operation : Operation} (h : operation.drops id = true) :
    operation.text? = none := by
  cases operation with
  | receive text => exact Bool.noConfusion h
  | _ => rfl

theorem textsUntilOff_cons (id : SubscriptionId) (operation : Operation)
    (rest : List Operation) :
    textsUntilOff id (operation :: rest) =
      if operation.drops id then [] else operation.text?.toList ++ textsUntilOff id rest := by
  rw [textsUntilOff, List.takeWhile_cons]
  cases operation.drops id with
  | true => rfl
  | false =>
    cases htext : operation.text? with
    | none => exact List.filterMap_cons_none htext
    | some text => exact List.filterMap_cons_some htext

/-- What an observer sees of an operation. -/
theorem filter_sightings_apply (c : Connection) (id : SubscriptionId) (operation : Operation) :
    (c.apply operation).sightings.filter (fun sighting => sighting.observer = id) =
      c.sightings.filter (fun sighting => sighting.observer = id) ++
        operation.text?.toList.flatMap fun text =>
          (c.under id).filterMap fun s => s.subscriber.sees id text := by
  rw [sightings_apply, List.filter_append]
  congr 1
  cases operation.text? with
  | none => rfl
  | some text =>
    simp only [Option.toList_some, List.flatMap_singleton]
    exact filter_sees _ _ _

/-! ### What an operation does to the subscriptions -/

/-- Whether a subscription outlives an operation. -/
def keeps (c : Connection) : Operation → Subscription → Bool
  | .off id, s => s.id ≠ id
  | .receive text, s =>
    match Inbound.ofText? text with
    | .ok m => !s.subscriber.takes m
    | .error _ => true
  | .hangUp, s => c.isClosed || !s.subscriber.isOnce
  | _, _ => true

/-- The subscription that an operation adds. -/
def added (c : Connection) : Operation → List Subscription
  | .subscribe accepts =>
    if c.isClosed then [] else [⟨c.registry.lastSubscription + 1, .once accepts⟩]
  | operation =>
    operation.observer?.toList.map fun s => ⟨c.registry.lastSubscription + 1, s⟩

/-- What is added has a new number. -/
theorem of_mem_added {operation : Operation} {s : Subscription} (h : s ∈ c.added operation) :
    s.id = c.registry.lastSubscription + 1 ∧
      (operation.observer? = some s.subscriber ∨ s.subscriber.isOnce = true) := by
  cases operation with
  | subscribe accepts =>
    rw [added] at h
    split at h
    · cases h
    · rw [List.mem_singleton.1 h]
      exact ⟨rfl, Or.inr rfl⟩
  | _ =>
    obtain ⟨subscriber, hobserver, rfl⟩ := List.mem_map.1 h
    exact ⟨rfl, Or.inl (Option.mem_toList.1 hobserver)⟩

/-- An operation leaves some of the subscriptions, in order, and may add one at the end. -/
theorem subscriptions_apply (c : Connection) (operation : Operation) :
    (c.apply operation).registry.subscriptions =
      c.registry.subscriptions.filter (c.keeps operation) ++ c.added operation := by
  have hall : c.registry.subscriptions.filter (fun _ => true) = c.registry.subscriptions :=
    List.filter_eq_self.2 fun _ _ => rfl
  have hsame {d : Connection} (h : d.registry.subscriptions = c.registry.subscriptions) :
      d.registry.subscriptions = c.registry.subscriptions.filter (fun _ => true) ++ [] := by
    rw [h, hall, List.append_nil]
  have hnew (s : Subscriber) : (c.registry.register s).1.subscriptions =
      c.registry.subscriptions.filter (fun _ => true) ++
        [⟨c.registry.lastSubscription + 1, s⟩] := by
    rw [hall]
    rfl
  cases operation with
  | enroll id => exact hsame (c.sameListeners_enroll id).subscriptions
  | write id => exact hsame (c.sameListeners_write id).subscriptions
  | refuse id => exact hsame (c.sameListeners_refuse id).subscriptions
  | expire id => exact hsame (c.sameListeners_expire id).subscriptions
  | subscribe accepts =>
    by_cases hclosed : c.registry.closed = true
    · rw [added, isClosed, if_pos hclosed, apply, subscribe, Registry.registerOnce, if_pos hclosed]
      exact hsame rfl
    · rw [added, isClosed, if_neg hclosed, apply, subscribe, Registry.registerOnce, if_neg hclosed]
      exact hnew _
  | observe method => exact hnew _
  | observeMalformed => exact hnew _
  | off id => exact (List.append_nil _).symm
  | take id =>
    refine hsame ?_
    simp only [apply, take]
    split <;> rfl
  | receive text =>
    cases ht : Inbound.ofText? text with
    | ok m =>
      have hkeeps : c.keeps (.receive text) = fun s => !s.subscriber.takes m := by
        funext s
        simp only [keeps, ht]
      rw [apply, receive, ht, hkeeps]
      exact ((congrArg Registry.subscriptions (c.dispatch_eq m).2.2.2.1).trans
        (Registry.subscriptions_dispatch _ _)).trans (List.append_nil _).symm
    | error error =>
      have hkeeps : c.keeps (.receive text) = fun _ => true := by
        funext s
        simp only [keeps, ht]
      rw [apply, receive, ht, hkeeps]
      exact hsame rfl
  | hangUp =>
    simp only [apply, hangUp, Registry.close]
    by_cases hclosed : c.registry.closed = true
    · have hkeeps : c.keeps .hangUp = fun _ => true := by
        funext s
        simp only [keeps, isClosed, hclosed, Bool.true_or]
      rw [if_pos hclosed, hkeeps]
      exact hsame rfl
    · have hkeeps : c.keeps .hangUp = fun s => !s.subscriber.isOnce := by
        funext s
        rw [keeps, isClosed, Bool.eq_false_iff.2 hclosed, Bool.false_or]
      rw [if_neg hclosed, hkeeps]
      exact (List.append_nil _).symm
  | issue method params => exact hsame rfl
  | readAnswer id => exact hsame rfl
  | abandon id => exact hsame rfl

/-- An observer goes only when it is ended. -/
theorem keeps_eq_not_drops (c : Connection) {operation : Operation} {s : Subscription}
    (h : s.subscriber.isOnce = false) : c.keeps operation s = !operation.drops s.id := by
  cases operation with
  | off id => simp [keeps, Operation.drops, eq_comm]
  | receive text =>
    simp only [keeps, takes_of_not_once h]
    split <;> rfl
  | hangUp => simp [keeps, h, Operation.drops]
  | _ => rfl

/-- No subscription outlives an operation that ends it. -/
theorem drops_of_keeps {operation : Operation} {s : Subscription}
    (h : c.keeps operation s = true) : operation.drops s.id = false := by
  cases operation with
  | off id => exact decide_eq_false fun heq => of_decide_eq_true h heq.symm
  | _ => rfl

/-- A number that has been given, but to no waiter. -/
structure ObserverNumber (c : Connection) (id : SubscriptionId) : Prop where
  given : id ≤ c.registry.lastSubscription
  observers : ∀ s ∈ c.under id, s.subscriber.isOnce = false

namespace ObserverNumber

/-- An observer stays until it is ended, and no other subscription gets its number. -/
theorem under_apply (h : ObserverNumber c id) (operation : Operation) :
    (c.apply operation).under id = if operation.drops id then [] else c.under id := by
  have hnone : (c.added operation).filter (fun s => s.id = id) = [] := by
    rw [List.filter_eq_nil_iff]
    intro s hs hid
    have hnew := (of_mem_added hs).1.symm.trans (of_decide_eq_true hid)
    exact absurd (hnew ▸ h.given) (Nat.not_succ_le_self _)
  have hkeeps : (c.under id).filter (c.keeps operation) =
      (c.under id).filter fun _ => !operation.drops id := by
    refine List.filter_congr fun s hs => ?_
    rw [c.keeps_eq_not_drops (h.observers s hs), of_decide_eq_true (List.mem_filter.1 hs).2]
  rw [under, subscriptions_apply, List.filter_append, hnone, List.append_nil, List.filter_comm,
    ← under, hkeeps]
  cases operation.drops id with
  | true => exact List.filter_eq_nil_iff.2 fun _ _ => Bool.false_ne_true
  | false => exact List.filter_eq_self.2 fun _ _ => rfl

theorem apply (h : ObserverNumber c id) (operation : Operation) :
    ObserverNumber (c.apply operation) id := by
  refine ⟨Nat.le_trans h.given (c.lastSubscription_le_run [operation]), ?_⟩
  rw [h.under_apply]
  split_ifs
  · exact fun _ hs => by cases hs
  · exact h.observers

theorem under_run (h : ObserverNumber c id) (operations : List Operation) :
    (c.run operations).under id = if operations.any (·.drops id) then [] else c.under id := by
  induction operations generalizing c with
  | nil => rfl
  | cons operation rest ih =>
    change ((c.apply operation).run rest).under id = _
    rw [List.any_cons, ih (h.apply operation), h.under_apply]
    cases operation.drops id <;> cases rest.any (·.drops id) <;> rfl

/-- What an observer sees in a sequence of operations. -/
theorem filter_sightings_run (h : ObserverNumber c id) (operations : List Operation) :
    (c.run operations).sightings.filter (fun sighting => sighting.observer = id) =
      c.sightings.filter (fun sighting => sighting.observer = id) ++
        (textsUntilOff id operations).flatMap fun text =>
          (c.under id).filterMap fun s => s.subscriber.sees id text := by
  induction operations generalizing c with
  | nil => exact (List.append_nil _).symm
  | cons operation rest ih =>
    change ((c.apply operation).run rest).sightings.filter _ = _
    rw [ih (h.apply operation), filter_sightings_apply, h.under_apply, textsUntilOff_cons,
      List.append_assoc]
    congr 1
    cases hdrops : operation.drops id with
    | true =>
      rw [text?_of_drops hdrops]
      simp
    | false => simp

end ObserverNumber

/-! ### Registrations -/

/-- The operation that registers an observer does nothing else. -/
theorem apply_of_observer {operation : Operation} {s : Subscriber}
    (h : operation.observer? = some s) :
    c.apply operation = { c with registry := (c.registry.register s).1 } := by
  cases operation with
  | observe method =>
    obtain rfl := Option.some.inj h
    rfl
  | observeMalformed =>
    obtain rfl := Option.some.inj h
    rfl
  | _ => cases h

theorem isOnce_of_observer {operation : Operation} {s : Subscriber}
    (h : operation.observer? = some s) : s.isOnce = false := by
  cases operation with
  | observe method =>
    obtain rfl := Option.some.inj h
    rfl
  | observeMalformed =>
    obtain rfl := Option.some.inj h
    rfl
  | _ => cases h

/-- A new observer is the only subscription with its number. -/
theorem under_of_observer (hn : Numbered c) {operation : Operation} {s : Subscriber}
    (h : operation.observer? = some s) :
    (c.apply operation).under (c.registry.lastSubscription + 1) =
      [⟨c.registry.lastSubscription + 1, s⟩] := by
  have hfresh : c.registry.subscriptions.filter
      (fun s => s.id = c.registry.lastSubscription + 1) = [] := by
    rw [List.filter_eq_nil_iff]
    intro t ht heq
    exact absurd (of_decide_eq_true heq ▸ hn.subscriptions t ht) (Nat.not_succ_le_self _)
  rw [apply_of_observer h, under, Registry.register, List.filter_append, hfresh]
  simp

theorem ObserverNumber.of_observer (hn : Numbered c) {operation : Operation} {s : Subscriber}
    (h : operation.observer? = some s) :
    ObserverNumber (c.apply operation) (c.registry.lastSubscription + 1) := by
  refine ⟨?_, fun t ht => ?_⟩
  · rw [apply_of_observer h]
    exact Nat.le_refl _
  · rw [under_of_observer hn h] at ht
    rw [List.mem_singleton.1 ht]
    exact isOnce_of_observer h

/-- A subscription that is there was there before, or has just been registered. -/
theorem mem_subscriptions_apply {operation : Operation} {s : Subscription}
    (hs : s ∈ (c.apply operation).registry.subscriptions) :
    (s ∈ c.registry.subscriptions ∧ operation.drops s.id = false) ∨
      (s.id = c.registry.lastSubscription + 1 ∧
        (operation.observer? = some s.subscriber ∨ s.subscriber.isOnce = true)) := by
  rw [subscriptions_apply, List.mem_append] at hs
  rcases hs with hold | hnew
  · obtain ⟨hmem, hkeeps⟩ := List.mem_filter.1 hold
    exact Or.inl ⟨hmem, drops_of_keeps hkeeps⟩
  · exact Or.inr (of_mem_added hnew)

end Connection

open Connection in
/-- The observers that are registered are those that were registered and not ended since. -/
theorem subscription_exists_iff (bound : Option Duration)
    (operations : List Connection.Operation) {id : SubscriptionId} {s : Subscriber}
    (hs : s.isOnce = false) :
    ⟨id, s⟩ ∈ ((Connection.opened bound).run operations).registry.subscriptions ↔
      ∃ before operation after, operations = before ++ operation :: after ∧
        operation.observer? = some s ∧
        id = ((Connection.opened bound).run before).registry.lastSubscription + 1 ∧
        after.any (·.drops id) = false := by
  constructor
  · intro hmem
    induction operations using List.reverseRecOn with
    | nil => cases hmem
    | append_singleton operations operation ih =>
      rw [run_concat] at hmem
      rcases mem_subscriptions_apply hmem with ⟨hold, hkept⟩ | ⟨hid, hnew | honce⟩
      · obtain ⟨before, registers, after, rfl, hregisters, hid, hafter⟩ := ih hold
        refine ⟨before, registers, after ++ [operation], ?_, hregisters, hid, ?_⟩
        · rw [List.append_assoc, List.cons_append]
        · rw [List.any_append, hafter, List.any_cons, hkept]
          rfl
      · exact ⟨operations, operation, [], rfl, hnew, hid, rfl⟩
      · rw [hs] at honce
        exact Bool.noConfusion honce
  · rintro ⟨before, operation, after, rfl, hregisters, rfl, hafter⟩
    have hn := (numbered_opened bound).run before
    have hunder := under_of_observer hn hregisters
    have hstays := (ObserverNumber.of_observer hn hregisters).under_run after
    rw [hafter, if_neg Bool.false_ne_true, hunder] at hstays
    have hmem := List.mem_singleton_self
      (⟨((opened bound).run before).registry.lastSubscription + 1, s⟩ : Subscription)
    rw [← hstays] at hmem
    rw [run_append]
    exact (List.mem_filter.1 hmem).1

/-! ### Every sequence of operations -/

/-- The receipt of a waiter after the operations that follow its registration. -/
theorem receipt_after_subscribe (bound : Option Duration) (before : List Connection.Operation)
    (accepts : Inbound → Bool) (after : List Connection.Operation) :
    let c := (Connection.opened bound).run before
    let id := c.registry.lastSubscription + 1
    ((Connection.opened bound).run (before ++ .subscribe accepts :: after)).receipt id =
      after.foldl (Receipt.next accepts id) (if c.isClosed then .closed else .waiting) := by
  intro c id
  have hn : Numbered c := (numbered_opened bound).run before
  have hd : Distinct c := distinct_run bound before
  obtain ⟨hwaits, hreceipt⟩ := Waits.subscribe hn accepts
  rw [c.subscribe_snd accepts] at hwaits hreceipt
  rw [Connection.run_append, ← hreceipt]
  exact hwaits.receipt_run (hn.apply (.subscribe accepts)) (hd.apply hn (.subscribe accepts)) after

/-- What is held for a waiter is its receipt. -/
theorem Distinct.mem_held_iff {c : Connection} (h : Distinct c) {id : SubscriptionId}
    {m : Inbound} : (id, m) ∈ c.held ↔ c.receipt id = .frame m := by
  rw [Connection.receipt_eq_frame_iff]
  constructor
  · intro hheld
    have hmem : (id, m) ∈ c.held.filter fun h => h.1 = id :=
      List.mem_filter.2 ⟨hheld, decide_eq_true rfl⟩
    rwa [h.held_filter, Option.mem_toList] at hmem
  · exact List.mem_of_find?_eq_some

/-- A waiter gets the first frame that it accepts while it waits, and only that one. -/
theorem receipt_of_waiter {c₀ c : Connection} {accepts : Inbound → Bool} {id : SubscriptionId}
    {after : List Connection.Operation}
    (hreceipt : c.receipt id = after.foldl (Receipt.next accepts id)
      (if c₀.isClosed then .closed else .waiting))
    (hclosed : c.isClosed = (c₀.isClosed || after.any Connection.Operation.ends)) :
    let first := if c₀.isClosed then none else Connection.firstAccepted? accepts id after
    (∀ m, c.receipt id = .frame m → first = some m) ∧
    (after.any (·.reads id) = false →
      (∀ m, first = some m → c.receipt id = .frame m) ∧
      (first = none → c.receipt id =
        if c.isClosed || after.any (·.drops id) then .closed else .waiting)) := by
  intro first
  cases hbefore : c₀.isClosed with
  | true =>
    have hfirst : first = none := if_pos hbefore
    rw [hbefore, if_pos rfl, Receipt.foldl_next_closed] at hreceipt
    rw [hbefore, Bool.true_or] at hclosed
    rw [hreceipt, hclosed, hfirst, Bool.true_or]
    exact ⟨fun _ h => Receipt.noConfusion h, fun _ => ⟨fun _ h => (by cases h), fun _ => rfl⟩⟩
  | false =>
    have hfirst : first = Connection.firstAccepted? accepts id after := if_neg (by simp [hbefore])
    rw [hbefore, if_neg Bool.false_ne_true] at hreceipt
    rw [hbefore, Bool.false_or] at hclosed
    refine ⟨fun m hm => hfirst.trans (Receipt.eq_frame_of_foldl (hreceipt.symm.trans hm)),
      fun hunread => ?_⟩
    rw [Receipt.foldl_next_waiting hunread, ← hfirst] at hreceipt
    refine ⟨fun m hm => by rw [hreceipt, hm], fun hnone => ?_⟩
    have hany : after.any (fun o => o.drops id || o.ends) =
        (after.any Connection.Operation.ends || after.any (·.drops id)) := by
      rw [Bool.eq_iff_iff]
      simp only [List.any_eq_true, Bool.or_eq_true, and_or_left, exists_or]
      exact or_comm
    rw [hreceipt, hnone, hclosed, hany]

/-- What an observer has seen after the operations that follow its registration. -/
theorem sightings_after_observer (bound : Option Duration) (before : List Connection.Operation)
    {operation : Connection.Operation} {s : Subscriber} (h : operation.observer? = some s)
    (after : List Connection.Operation) :
    let id := ((Connection.opened bound).run before).registry.lastSubscription + 1
    ((Connection.opened bound).run (before ++ operation :: after)).sightings.filter
        (fun sighting => sighting.observer = id) =
      (Connection.textsUntilOff id after).filterMap (s.sees id) := by
  intro id
  have hn := (numbered_opened bound).run before
  have hd := distinct_run bound before
  have hunder := Connection.under_of_observer hn h
  have hseen : (((Connection.opened bound).run before).apply operation).sightings.filter
      (fun sighting => sighting.observer = id) = [] := by
    rw [Connection.apply_of_observer h, List.filter_eq_nil_iff]
    intro sighting hsighting heq
    exact absurd (of_decide_eq_true heq ▸ hd.seen sighting hsighting) (Nat.not_succ_le_self _)
  have hrun := (Connection.ObserverNumber.of_observer hn h).filter_sightings_run after
  rw [hseen, hunder, List.nil_append] at hrun
  rw [Connection.run_append, List.filterMap_eq_flatMap_toList]
  refine hrun.trans ?_
  congr 1

/-- The observers of malformed texts are those that were registered and have not been ended. -/
theorem mem_malformedObservers_iff (bound : Option Duration)
    (operations : List Connection.Operation) {id : SubscriptionId} :
    id ∈ ((Connection.opened bound).run operations).registry.malformedObservers ↔
      ∃ before after, operations = before ++ .observeMalformed :: after ∧
        id = ((Connection.opened bound).run before).registry.lastSubscription + 1 ∧
        after.any (·.drops id) = false := by
  rw [Registry.malformedObservers, List.mem_map]
  constructor
  · rintro ⟨s, hs, rfl⟩
    obtain ⟨hmem, hmalformed⟩ := List.mem_filter.1 hs
    have hs' : s = ⟨s.id, .malformed⟩ := by
      obtain ⟨id, subscriber⟩ := s
      cases subscriber with
      | malformed => rfl
      | _ => exact Bool.noConfusion hmalformed
    rw [hs'] at hmem
    obtain ⟨before, operation, after, hsplit, hobserver, hid, hafter⟩ :=
      (subscription_exists_iff bound operations (s := .malformed) rfl).1 hmem
    have hoperation : operation = .observeMalformed := by
      cases operation with
      | observeMalformed => rfl
      | observe method => exact Subscriber.noConfusion (Option.some.inj hobserver)
      | _ => cases hobserver
    exact ⟨before, after, hoperation ▸ hsplit, hid, hafter⟩
  · rintro ⟨before, after, hsplit, hid, hafter⟩
    have hmem := (subscription_exists_iff bound operations (s := .malformed) rfl).2
      ⟨before, .observeMalformed, after, hsplit, rfl, hid, hafter⟩
    exact ⟨_, List.mem_filter.2 ⟨hmem, rfl⟩, rfl⟩

open Connection in
/-- Waiters get the first match and observers get everything, in whatever order waiters and
observers come and go, texts arrive and the connection ends.  At most one frame is held for a
waiter, and only the first one that it accepts, from its registration on, before it is given up and
before the connection ends; that one is held, and can be read, until it has been read.  Without
one a waiter waits until it is given up or the connection ends.  An observer of a method has seen
every notification of this method until it was ended, in order, and no response; an observer of
malformed texts has seen all of these; and such a text reaches the observers of malformed texts that
are registered, each of them once, and changes nothing else. -/
theorem listeners_served (bound : Option Duration) (operations : List Connection.Operation) :
    let start := Connection.opened bound
    let c := start.run operations
    (∀ before accepts after, operations = before ++ .subscribe accepts :: after →
      let id := (start.run before).registry.lastSubscription + 1
      let first :=
        if (start.run before).isClosed then none else firstAccepted? accepts id after
      (c.held.filter fun h => h.1 = id).length ≤ 1 ∧
      (∀ m, (id, m) ∈ c.held → first = some m) ∧
      (after.any (·.reads id) = false →
        (∀ m, first = some m →
          (id, m) ∈ c.held ∧ c.receipt id = .frame m ∧ (c.take id).2 = some m) ∧
        (first = none → c.receipt id =
          if c.isClosed || after.any (·.drops id) then .closed else .waiting))) ∧
    (∀ before operation s after, operations = before ++ operation :: after →
      operation.observer? = some s →
      let id := (start.run before).registry.lastSubscription + 1
      c.sightings.filter (fun sighting => sighting.observer = id) =
        (textsUntilOff id after).filterMap (s.sees id)) ∧
    (∀ text r, Inbound.ofText? text = .ok (.response r) →
      (c.receive text).sightings = c.sightings) ∧
    (∀ text error, Inbound.ofText? text = .error error →
      c.receive text = { c with
        sightings := c.sightings ++
          c.registry.malformedObservers.map fun id => .malformed id text error }) ∧
    c.registry.malformedObservers.Nodup ∧
    ∀ id, id ∈ c.registry.malformedObservers ↔
      ∃ before after, operations = before ++ .observeMalformed :: after ∧
        id = (start.run before).registry.lastSubscription + 1 ∧
        after.any (·.drops id) = false := by
  intro start c
  have hd : Distinct c := distinct_run bound operations
  refine ⟨fun before accepts after hsplit => ?_, fun before operation s after hsplit hs => ?_,
    fun text r ht => ?_, fun text error ht => ?_, ?_,
    fun _ => mem_malformedObservers_iff bound operations⟩
  · intro id first
    have hreceipt : c.receipt id = after.foldl (Receipt.next accepts id)
        (if (start.run before).isClosed then .closed else .waiting) := by
      rw [← receipt_after_subscribe bound before accepts after, ← hsplit]
    have hclosed : c.isClosed =
        ((start.run before).isClosed || after.any Connection.Operation.ends) := by
      have hrun : c = start.run (before ++ .subscribe accepts :: after) := by rw [← hsplit]
      rw [hrun, run_append, isClosed_run_eq, List.any_cons]
      rfl
    obtain ⟨honly, hfirst⟩ := receipt_of_waiter hreceipt hclosed
    refine ⟨?_, fun m hm => honly m (hd.mem_held_iff.1 hm), fun hunread => ⟨fun m hm => ?_,
      (hfirst hunread).2⟩⟩
    · rw [hd.held_filter]
      cases c.held.find? fun h => h.1 = id <;> simp
    · have hframe := (hfirst hunread).1 m hm
      refine ⟨hd.mem_held_iff.2 hframe, hframe, ?_⟩
      rw [take, receipt_eq_frame_iff.1 hframe]
  · intro id
    rw [← sightings_after_observer bound before hs after, ← hsplit]
  · rw [c.sightings_receive]
    simp [Subscriber.sees_of_ok ht, Inbound.notification?]
  · rw [receive, ht]
  · exact hd.subscriptions.sublist (List.filter_sublist.map _)

end ValueTrace.Inspector
