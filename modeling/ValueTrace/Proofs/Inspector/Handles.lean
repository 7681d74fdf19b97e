import ValueTrace.Proofs.Inspector.Listening

/-!
# Numbers of subscriptions

Whoever subscribes gets a number, and later gives the subscription back by it, perhaps long after
the subscription has gone by itself.  This hits nobody else: the numbers are handed out one after
the other, each of them once, also by a connection that has ended and registers nothing
(`Connection.handles_eq_range'`), and what is registered stands in the order of the numbers
(`Connection.subscriptions_run_sublist`).  So a number names at most one subscription
(`Registry.remove_cases`), and that of a waiter names its own one, as long as it waits, and
nothing afterwards (`handles_stay_apart`).

## Main definitions

* `Connection.handle?`, `Connection.handles` : the numbers that operations hand out.
* `Connection.registrations` : the subscriptions that operations register.

## Main results

* `Registry.remove_cases` : what it means to remove a number that is nowhere twice.
* `Receipt.isWaiting_foldl_next` : when a waiter still waits.
* `handles_stay_apart` : numbers after every sequence of operations.
-/

namespace ValueTrace.Inspector

namespace Connection

/-- The number that an operation hands out to its caller. -/
def handle? (c : Connection) : Operation → Option SubscriptionId
  | .subscribe accepts => some (c.subscribe accepts).2
  | .observe method => some (c.observe method).2
  | .observeMalformed => some c.observeMalformed.2
  | _ => none

/-- The numbers that a sequence of operations hands out, in order. -/
def handles (c : Connection) : List Operation → List SubscriptionId
  | [] => []
  | operation :: rest => (c.handle? operation).toList ++ (c.apply operation).handles rest

/-- The subscriptions that a sequence of operations registers, in order. -/
def registrations (c : Connection) : List Operation → List Subscription
  | [] => []
  | operation :: rest => c.added operation ++ (c.apply operation).registrations rest

variable (c : Connection)

/-! ### Numbers that are handed out -/

/-- The number that is handed out is the next one, whether something is registered or not. -/
theorem handle?_eq (operation : Operation) :
    c.handle? operation =
      if operation.registers then some (c.registry.lastSubscription + 1) else none := by
  cases operation with
  | subscribe accepts => exact congrArg some (c.subscribe_snd accepts)
  | _ => rfl

/-- The numbers that are handed out follow each other without a gap. -/
theorem handles_eq_range' (operations : List Operation) :
    c.handles operations =
      List.range' (c.registry.lastSubscription + 1) (operations.countP Operation.registers) := by
  induction operations generalizing c with
  | nil => rfl
  | cons operation rest ih =>
    rw [handles, ih, handle?_eq, lastSubscription_apply, List.countP_cons]
    cases operation.registers with
    | true => exact List.range'_succ.symm
    | false => rfl

/-- Numbers that are handed out later are others. -/
theorem disjoint_handles (operations later : List Operation) :
    (c.handles operations).Disjoint ((c.run operations).handles later) := by
  intro id hold hnew
  rw [handles_eq_range', List.mem_range'_1] at hold hnew
  rw [lastSubscription_run] at hnew
  omega

/-- What an operation registers stands under the number that the operation hands out. -/
theorem ids_added_sublist (operation : Operation) :
    ((c.added operation).map Subscription.id).Sublist (c.handle? operation).toList := by
  cases operation with
  | subscribe accepts =>
    rw [handle?, subscribe_snd, added]
    split
    · exact List.nil_sublist _
    · exact List.Sublist.refl _
  | _ => exact List.Sublist.refl _

theorem ids_registrations_sublist (operations : List Operation) :
    ((c.registrations operations).map Subscription.id).Sublist (c.handles operations) := by
  induction operations generalizing c with
  | nil => exact List.Sublist.refl _
  | cons operation rest ih =>
    rw [registrations, List.map_append, handles]
    exact (c.ids_added_sublist operation).append (ih _)

/-! ### Subscriptions in the order of their registration -/

/-- The list of subscriptions never changes its order: it is what was there before and what was
registered since, with some of them gone. -/
theorem subscriptions_run_sublist (operations : List Operation) :
    (c.run operations).registry.subscriptions.Sublist
      (c.registry.subscriptions ++ c.registrations operations) := by
  induction operations generalizing c with
  | nil => exact List.sublist_append_left _ _
  | cons operation rest ih =>
    refine (ih (c.apply operation)).trans ?_
    rw [subscriptions_apply, registrations, List.append_assoc]
    exact List.filter_sublist.append_right _

/-- Numbers that grow along the list go on growing, because those that are handed out later are all
beyond them. -/
theorem pairwise_ids_run {c : Connection} (h : Numbered c)
    (hids : (c.registry.subscriptions.map Subscription.id).Pairwise (· < ·))
    (operations : List Operation) :
    ((c.run operations).registry.subscriptions.map Subscription.id).Pairwise (· < ·) := by
  have hall : (c.registry.subscriptions.map Subscription.id ++
      c.handles operations).Pairwise (· < ·) := by
    rw [handles_eq_range', List.pairwise_append]
    refine ⟨hids, List.pairwise_lt_range', fun old hold new hnew => ?_⟩
    obtain ⟨s, hs, rfl⟩ := List.mem_map.1 hold
    exact Nat.lt_of_le_of_lt (h.subscriptions s hs) (List.mem_range'_1.1 hnew).1
  have hsub := (c.subscriptions_run_sublist operations).map Subscription.id
  rw [List.map_append] at hsub
  exact hall.sublist (hsub.trans ((c.ids_registrations_sublist operations).append_left _))

-- The waiter after the end takes the number two, and nothing is registered under it.
example : ((opened none).run [.observe "a", .hangUp, .subscribe fun _ => true,
    .observe "b"]).registry.subscriptions.map Subscription.id = [1, 3] := rfl

end Connection

/-! ### Removing by number -/

/-- Where no number stands twice, to remove one takes a single subscription out of the list, or
changes nothing. -/
theorem Registry.remove_cases {r : Registry}
    (h : (r.subscriptions.map Subscription.id).Nodup) (id : SubscriptionId) :
    (r.isRegistered id = false ∧ r.remove id = (r, false)) ∨
      ∃ front s back, r.isRegistered id = true ∧ r.subscriptions = front ++ s :: back ∧
        s.id = id ∧ r.remove id = ({ r with subscriptions := front ++ back }, true) := by
  have hkept {subscriptions : List Subscription} (hid : id ∉ subscriptions.map Subscription.id) :
      subscriptions.filter (fun s => s.id ≠ id) = subscriptions :=
    List.filter_eq_self.2 fun s hs => decide_eq_true fun heq =>
      hid (List.mem_map.2 ⟨s, hs, heq⟩)
  by_cases hmem : id ∈ r.subscriptions.map Subscription.id
  · obtain ⟨s, hs, rfl⟩ := List.mem_map.1 hmem
    have hregistered : r.isRegistered s.id = true :=
      List.any_eq_true.2 ⟨s, hs, decide_eq_true rfl⟩
    obtain ⟨front, back, hsplit⟩ := List.append_of_mem hs
    rw [hsplit, List.map_append, List.map_cons, List.nodup_middle, List.nodup_cons,
      List.mem_append, not_or] at h
    have hgone : (front ++ s :: back).filter (fun t => t.id ≠ s.id) = front ++ back := by
      rw [List.filter_append, List.filter_cons_of_neg (by simp), hkept h.1.1, hkept h.1.2]
    refine Or.inr ⟨front, s, back, hregistered, hsplit, rfl, ?_⟩
    rw [remove, hregistered, hsplit, hgone]
  · have hnone : r.isRegistered id = false := by
      rw [Bool.eq_false_iff, isRegistered, Ne, List.any_eq_true]
      rintro ⟨s, hs, heq⟩
      exact hmem (List.mem_map.2 ⟨s, hs, of_decide_eq_true heq⟩)
    refine Or.inl ⟨hnone, ?_⟩
    rw [remove, hnone, hkept hmem]

namespace Distinct

variable {c : Connection}

/-- Numbers stay distinct, whatever happens. -/
theorem run (h : Distinct c) (hn : Numbered c) (operations : List Connection.Operation) :
    Distinct (c.run operations) := by
  induction operations generalizing c with
  | nil => exact h
  | cons operation rest ih => exact ih (h.apply hn operation) (hn.apply operation)

/-- To end a subscription takes it out of the list, if there is one, and no other. -/
theorem off_cases (h : Distinct c) (id : SubscriptionId) :
    (c.registry.isRegistered id = false ∧ c.off id = (c, false)) ∨
      ∃ front s back, c.registry.isRegistered id = true ∧
        c.registry.subscriptions = front ++ s :: back ∧ s.id = id ∧
        c.off id =
          ({ c with registry := { c.registry with subscriptions := front ++ back } }, true) := by
  rcases Registry.remove_cases h.subscriptions id with
    ⟨hnone, hremove⟩ | ⟨front, s, back, hregistered, hsplit, hid, hremove⟩
  · exact Or.inl ⟨hnone, by rw [Connection.off, hremove]⟩
  · exact Or.inr ⟨front, s, back, hregistered, hsplit, hid, by rw [Connection.off, hremove]⟩

/-- A waiter is registered as long as it waits. -/
theorem isRegistered_eq_isWaiting (h : Distinct c) (id : SubscriptionId) :
    c.registry.isRegistered id = (c.receipt id).isWaiting := by
  cases hfind : c.held.find? fun h => h.1 = id with
  | none =>
    rw [Connection.receipt_of_not_held hfind]
    cases c.registry.isRegistered id <;> rfl
  | some found =>
    have hid : found.1 = id := by simpa using List.find?_some hfind
    have hr : c.receipt id = .frame found.2 := by
      rw [Connection.receipt_eq_frame_iff, hfind, ← hid]
    rw [h.isRegistered_eq_false hr, hr]
    rfl

end Distinct

/-! ### The number of a waiter -/

/-- A waiter waits until a frame comes that it accepts, it is given up or the connection ends. -/
theorem Receipt.isWaiting_foldl_next (accepts : Inbound → Bool) (id : SubscriptionId)
    (operations : List Connection.Operation) :
    (operations.foldl (next accepts id) .waiting).isWaiting =
      !((Connection.firstAccepted? accepts id operations).isSome ||
        operations.any fun o => o.drops id || o.ends) := by
  induction operations with
  | nil => rfl
  | cons operation rest ih =>
    rw [List.foldl_cons, next_waiting, Connection.firstAccepted?_cons, List.any_cons]
    cases hstop : operation.drops id || operation.ends with
    | true =>
      simp only [if_true, foldl_next_closed, Bool.true_or, Bool.or_true]
      rfl
    | false =>
      simp only [Bool.false_eq_true, if_false, Bool.false_or]
      cases operation.frame?.filter accepts with
      | none => exact ih
      | some m =>
        dsimp only [Option.some_or]
        rw [foldl_next_frame]
        split_ifs <;> rfl

namespace Waits

variable {c : Connection} {id : SubscriptionId} {accepts : Inbound → Bool}

/-- A waiter stays one, whatever happens. -/
theorem waits_run (h : Waits c id accepts) (operations : List Connection.Operation) :
    Waits (c.run operations) id accepts := by
  induction operations generalizing c with
  | nil => exact h
  | cons operation rest ih => exact ih (h.apply operation)

/-- To release a waiter takes its own subscription out of the list, if that is still there. -/
theorem release_cases (h : Waits c id accepts) (hd : Distinct c) :
    (c.registry.isRegistered id = false ∧ c.release id = c) ∨
      (c.registry.isRegistered id = true ∧
        ∃ front back, c.registry.subscriptions = front ++ ⟨id, .once accepts⟩ :: back ∧
          c.release id =
            { c with registry := { c.registry with subscriptions := front ++ back } }) := by
  rcases hd.off_cases id with
    ⟨hnone, hoff⟩ | ⟨front, s, back, hregistered, hsplit, hid, hoff⟩
  · exact Or.inl ⟨hnone, congrArg Prod.fst hoff⟩
  · have hself : s = ⟨id, .once accepts⟩ := by
      have hmem : s ∈ c.registry.subscriptions :=
        hsplit ▸ List.mem_append_right _ List.mem_cons_self
      rw [← hid, ← h.once s hmem hid]
    exact Or.inr ⟨hregistered, front, back, hself ▸ hsplit, congrArg Prod.fst hoff⟩

end Waits

open Connection in
/-- Whether a waiter is still registered follows from what has happened since it began to wait. -/
theorem isRegistered_subscribe_run {c : Connection} (hn : Numbered c) (hd : Distinct c)
    (accepts : Inbound → Bool) (later : List Operation) :
    ((c.subscribe accepts).1.run later).registry.isRegistered (c.subscribe accepts).2 =
      !(c.isClosed || (firstAccepted? accepts (c.subscribe accepts).2 later).isSome ||
        later.any fun o => o.drops (c.subscribe accepts).2 || o.ends) := by
  obtain ⟨hwaits, hreceipt⟩ := Waits.subscribe hn accepts
  have hnumbered : Numbered (c.subscribe accepts).1 := hn.subscribe accepts
  have hdistinct : Distinct (c.subscribe accepts).1 := hd.apply hn (.subscribe accepts)
  rw [(hdistinct.run hnumbered later).isRegistered_eq_isWaiting,
    hwaits.receipt_run hnumbered hdistinct later, hreceipt, Bool.or_assoc]
  cases c.isClosed with
  | true =>
    rw [if_pos rfl, Receipt.foldl_next_closed]
    rfl
  | false => exact Receipt.isWaiting_foldl_next accepts _ later

open Connection in
/-- The numbers of subscriptions are never confused, whatever operations come, before or after the
end of the connection.  The subscriptions stand in the order of their registration, under the
numbers that were handed out for them; their numbers grow strictly along the list, and none is
beyond the latest one.  The numbers from one to the latest are handed out one after the other, as
many as there are subscribers (so 64 bits hold them for less than `2 ^ 64` of these), and no number
is handed out again.  To end a subscription by its number removes a single one or changes nothing.
To release a waiter changes nothing if it was registered after the end of the connection, has got
its frame, was given up before, or lost its connection; otherwise it removes the subscription of
this waiter and no other. -/
theorem handles_stay_apart (bound : Option Duration) (operations : List Connection.Operation) :
    let start := Connection.opened bound
    let c := start.run operations
    c.registry.subscriptions.Sublist (start.registrations operations) ∧
    ((start.registrations operations).map Subscription.id).Sublist (start.handles operations) ∧
    (c.registry.subscriptions.map Subscription.id).Pairwise (· < ·) ∧
    (∀ s ∈ c.registry.subscriptions, s.id ≤ c.registry.lastSubscription) ∧
    c.registry.lastSubscription = operations.countP Operation.registers ∧
    start.handles operations = List.range' 1 c.registry.lastSubscription ∧
    (∀ later, (start.handles operations).Disjoint (c.handles later)) ∧
    (∀ id, c.off id = (c, false) ∨
      ∃ front s back, c.registry.subscriptions = front ++ s :: back ∧ s.id = id ∧
        c.off id =
          ({ c with registry := { c.registry with subscriptions := front ++ back } }, true)) ∧
    ∀ accepts later,
      let id := (c.subscribe accepts).2
      let d := (c.subscribe accepts).1.run later
      if c.isClosed || (firstAccepted? accepts id later).isSome ||
          later.any (fun o => o.drops id || o.ends) then
        d.release id = d
      else
        ∃ front back, d.registry.subscriptions = front ++ ⟨id, .once accepts⟩ :: back ∧
          d.release id =
            { d with registry := { d.registry with subscriptions := front ++ back } } := by
  intro start c
  have hn : Numbered c := (numbered_opened bound).run operations
  have hd : Distinct c := distinct_run bound operations
  have hlast : c.registry.lastSubscription = operations.countP Operation.registers :=
    (start.lastSubscription_run operations).trans (Nat.zero_add _)
  refine ⟨start.subscriptions_run_sublist operations, start.ids_registrations_sublist operations,
    pairwise_ids_run (numbered_opened bound) List.Pairwise.nil operations, hn.subscriptions, hlast,
    ?_, start.disjoint_handles operations, fun id => ?_, fun accepts later => ?_⟩
  · rw [hlast]
    exact start.handles_eq_range' operations
  · rcases hd.off_cases id with ⟨-, hoff⟩ | ⟨front, s, back, -, hsplit⟩
    · exact Or.inl hoff
    · exact Or.inr ⟨front, s, back, hsplit⟩
  · intro id d
    have hwaits : Waits d id accepts := (Waits.subscribe hn accepts).1.waits_run later
    have hdd : Distinct d := (hd.apply hn (.subscribe accepts)).run (hn.subscribe accepts) later
    have hregistered := isRegistered_subscribe_run hn hd accepts later
    rcases hwaits.release_cases hdd with ⟨hnone, hrelease⟩ | ⟨hsome, hrelease⟩
    · rw [hnone, eq_comm, Bool.not_eq_false'] at hregistered
      rwa [if_pos hregistered]
    · rw [hsome, eq_comm, Bool.not_eq_true'] at hregistered
      rwa [if_neg (Bool.eq_false_iff.1 hregistered)]

end ValueTrace.Inspector
