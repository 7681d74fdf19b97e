import ValueTrace.Proofs.Inspector.Requests

/-!
# What a waiter gets

A waiter gets the first frame that it accepts among those that arrive after it began to wait, and
keeps it; if the connection ends before there is one, it gets none.  Nothing else touches a waiter
but to give it back.  So the receipt of a waiter can be read off the frames that arrive
(`Waits.receipt_dispatch`, `Waits.receipt_hangUp`, `Waits.receipt_apply`).

## Main definitions

* `Numbered` : every number of a subscription has been given.
* `Waits` : a number belongs to a waiter.
* `SameListeners` : two connections with the same subscriptions and held frames.
* `Receipt.after`, `Receipt.atEnd` : how the receipt of a waiter changes.
-/

namespace ValueTrace.Inspector

/-- What a waiter has after a frame has arrived. -/
def Receipt.after (accepts : Inbound → Bool) (r : Receipt) (m : Inbound) : Receipt :=
  match r with
  | .waiting => if accepts m then .frame m else .waiting
  | r => r

@[simp] theorem Receipt.after_frame (accepts : Inbound → Bool) (m other : Inbound) :
    (Receipt.frame m).after accepts other = .frame m := rfl

@[simp] theorem Receipt.after_closed (accepts : Inbound → Bool) (m : Inbound) :
    Receipt.closed.after accepts m = .closed := rfl

theorem Receipt.isWaiting_iff {r : Receipt} : r.isWaiting = true ↔ r = .waiting := by
  cases r <;> simp [isWaiting]

/-- What a waiter has after the connection has ended. -/
def Receipt.atEnd : Receipt → Receipt
  | .waiting => .closed
  | r => r

/-- The numbers of subscriptions, and of waiters that hold a frame, have all been given, and nobody
waits on a closed connection. -/
structure Numbered (c : Connection) : Prop where
  subscriptions : ∀ s ∈ c.registry.subscriptions, s.id ≤ c.registry.lastSubscription
  held : ∀ h ∈ c.held, h.1 ≤ c.registry.lastSubscription
  closed : c.registry.closed = true → ∀ s ∈ c.registry.subscriptions, s.subscriber.isOnce = false

/-- A number belongs to a waiter that accepts certain frames, whether it still waits or not. -/
structure Waits (c : Connection) (id : SubscriptionId) (accepts : Inbound → Bool) : Prop where
  numbered : id ≤ c.registry.lastSubscription
  once : ∀ s ∈ c.registry.subscriptions, s.id = id → s.subscriber = .once accepts

/-- The two connections have the same subscriptions and the same held frames. -/
structure SameListeners (c d : Connection) : Prop where
  subscriptions : d.registry.subscriptions = c.registry.subscriptions
  lastSubscription : d.registry.lastSubscription = c.registry.lastSubscription
  closed : d.registry.closed = c.registry.closed
  held : d.held = c.held

namespace SameListeners

variable {c d : Connection} {id : SubscriptionId} {accepts : Inbound → Bool}

theorem refl (c : Connection) : SameListeners c c := ⟨rfl, rfl, rfl, rfl⟩

theorem trans {b : Connection} (h : SameListeners b c) (h' : SameListeners c d) :
    SameListeners b d :=
  ⟨h'.subscriptions.trans h.subscriptions, h'.lastSubscription.trans h.lastSubscription,
    h'.closed.trans h.closed, h'.held.trans h.held⟩

theorem numbered (h : SameListeners c d) (hn : Numbered c) : Numbered d where
  subscriptions := by
    rw [h.subscriptions, h.lastSubscription]
    exact hn.subscriptions
  held := by
    rw [h.held, h.lastSubscription]
    exact hn.held
  closed := by
    rw [h.closed, h.subscriptions]
    exact hn.closed

theorem waits (h : SameListeners c d) (hw : Waits c id accepts) : Waits d id accepts := by
  refine ⟨?_, ?_⟩
  · rw [h.lastSubscription]
    exact hw.numbered
  · rw [h.subscriptions]
    exact hw.once

theorem receipt (h : SameListeners c d) (id : SubscriptionId) : d.receipt id = c.receipt id := by
  rw [Connection.receipt, Connection.receipt, Registry.isRegistered, Registry.isRegistered,
    h.held, h.subscriptions]

end SameListeners

namespace Connection

variable {c : Connection} {id : SubscriptionId}

/-! ### Requests do not touch the listeners -/

theorem sameListeners_enroll (c : Connection) (id : RequestId) : SameListeners c (c.enroll id) := by
  rw [enroll]
  split
  · split <;> exact ⟨rfl, rfl, rfl, rfl⟩
  · exact .refl c

theorem sameListeners_write (c : Connection) (id : RequestId) : SameListeners c (c.write id) := by
  rw [write]
  split
  · split
    · exact ⟨rfl, rfl, rfl, rfl⟩
    · exact .refl c
  · exact .refl c

theorem sameListeners_refuse (c : Connection) (id : RequestId) : SameListeners c (c.refuse id) := by
  rw [refuse]
  split
  · split
    · exact ⟨rfl, rfl, rfl, rfl⟩
    · exact .refl c
  · exact .refl c

theorem sameListeners_expire (c : Connection) (id : RequestId) : SameListeners c (c.expire id) := by
  rw [expire]
  split
  · exact ⟨rfl, rfl, rfl, rfl⟩
  · exact ⟨rfl, rfl, rfl, rfl⟩
  · exact .refl c

theorem sameListeners_readAnswer (c : Connection) (id : RequestId) :
    SameListeners c (c.readAnswer id) := ⟨rfl, rfl, rfl, rfl⟩

theorem sameListeners_send (c : Connection) (method : String) (params : Option Json.Value) :
    SameListeners c (c.send method params).1 := by
  have hissue : SameListeners c (c.issue method params).1 := ⟨rfl, rfl, rfl, rfl⟩
  exact (hissue.trans (sameListeners_enroll _ _)).trans (sameListeners_write _ _)

/-- A waiter gets the next number. -/
theorem subscribe_snd (c : Connection) (accepts : Inbound → Bool) :
    (c.subscribe accepts).2 = c.registry.lastSubscription + 1 := by
  simp only [subscribe, Registry.registerOnce, Registry.register]
  split <;> rfl

/-! ### What is held -/

/-- A waiter holds a frame exactly if its receipt is that frame. -/
theorem receipt_eq_frame_iff {m : Inbound} :
    c.receipt id = .frame m ↔ (c.held.find? fun h => h.1 = id) = some (id, m) := by
  rw [receipt]
  split
  · rename_i other m' hfind
    have hid : other = id := by simpa using List.find?_some hfind
    rw [hfind, hid, Receipt.frame.injEq, Option.some.injEq, Prod.mk.injEq]
    exact ⟨fun h => ⟨rfl, h⟩, fun h => h.2⟩
  · rename_i hfind
    rw [hfind]
    refine ⟨fun h => ?_, fun h => by simp at h⟩
    split at h <;> simp at h

/-- Without a held frame the receipt tells whether the waiter is registered. -/
theorem receipt_of_not_held (h : (c.held.find? fun h => h.1 = id) = none) :
    c.receipt id = if c.registry.isRegistered id then .waiting else .closed := by
  rw [receipt, h]

end Connection

/-! ### Numbers -/

theorem numbered_opened (bound : Option Duration) : Numbered (Connection.opened bound) := by
  constructor <;> simp [Connection.opened, Registry.empty]

namespace Numbered

variable {c : Connection}

/-- A subscription under the next number leaves the numbers in order. -/
theorem register (h : Numbered c) (s : Subscriber)
    (hopen : c.registry.closed = true → s.isOnce = false) :
    Numbered { c with registry := (c.registry.register s).1 } := by
  refine ⟨fun t ht => ?_, fun t ht => Nat.le_succ_of_le (h.held t ht), fun hclosed t ht => ?_⟩
  · rcases List.mem_append.1 ht with hold | hnew
    · exact Nat.le_succ_of_le (h.subscriptions t hold)
    · rw [List.mem_singleton.1 hnew]
      exact Nat.le_refl _
  · rcases List.mem_append.1 ht with hold | hnew
    · exact h.closed hclosed t hold
    · rw [List.mem_singleton.1 hnew]
      exact hopen hclosed

theorem subscribe (h : Numbered c) (accepts : Inbound → Bool) :
    Numbered (c.subscribe accepts).1 := by
  by_cases hclosed : c.registry.closed = true
  · simp only [Connection.subscribe, Registry.registerOnce, hclosed, if_true]
    exact ⟨fun s hs => Nat.le_succ_of_le (h.subscriptions s hs),
      fun t ht => Nat.le_succ_of_le (h.held t ht), fun _ => h.closed hclosed⟩
  · simp only [Connection.subscribe, Registry.registerOnce, hclosed]
    exact h.register _ fun hc => absurd hc hclosed

theorem dispatch (h : Numbered c) (m : Inbound) : Numbered (c.dispatch m) := by
  obtain ⟨-, -, -, hregistry, hheld⟩ := c.dispatch_eq m
  refine ⟨fun s hs => ?_, fun t ht => ?_, fun hclosed s hs => ?_⟩
  · rw [hregistry, Registry.subscriptions_dispatch] at hs
    rw [hregistry, Registry.lastSubscription_dispatch]
    exact h.subscriptions s (List.mem_filter.1 hs).1
  · rw [hheld, Registry.takers_dispatch] at ht
    rw [hregistry, Registry.lastSubscription_dispatch]
    rcases List.mem_append.1 ht with hold | hnew
    · exact h.held t hold
    · obtain ⟨id, hid, rfl⟩ := List.mem_map.1 hnew
      obtain ⟨s, hs, rfl⟩ := List.mem_map.1 hid
      exact h.subscriptions s (List.mem_filter.1 hs).1
  · rw [hregistry, Registry.closed_dispatch] at hclosed
    rw [hregistry, Registry.subscriptions_dispatch] at hs
    exact h.closed hclosed s (List.mem_filter.1 hs).1

theorem hangUp (h : Numbered c) : Numbered c.hangUp := by
  by_cases hclosed : c.registry.closed = true
  · have hsame : c.hangUp = { c with calls := c.hangUp.calls } := by
      simp [Connection.hangUp, Registry.close, hclosed]
    rw [hsame]
    exact ⟨h.subscriptions, h.held, h.closed⟩
  · simp only [Connection.hangUp, Registry.close, hclosed]
    refine ⟨fun s hs => h.subscriptions s (List.mem_filter.1 hs).1, h.held, fun _ s hs => ?_⟩
    simpa using (List.mem_filter.1 hs).2

theorem off (h : Numbered c) (id : SubscriptionId) : Numbered (c.off id).1 :=
  ⟨fun s hs => h.subscriptions s (List.mem_filter.1 hs).1, h.held,
    fun hclosed s hs => h.closed hclosed s (List.mem_filter.1 hs).1⟩

theorem take (h : Numbered c) (id : SubscriptionId) : Numbered (c.take id).1 := by
  rw [Connection.take]
  split
  · exact ⟨h.subscriptions, fun t ht => h.held t (List.mem_filter.1 ht).1, h.closed⟩
  · exact h

/-- Every operation keeps the numbers in order. -/
theorem apply (h : Numbered c) (operation : Connection.Operation) :
    Numbered (c.apply operation) := by
  cases operation with
  | issue method params => exact ⟨h.subscriptions, h.held, h.closed⟩
  | enroll id => exact (c.sameListeners_enroll id).numbered h
  | write id => exact (c.sameListeners_write id).numbered h
  | refuse id => exact (c.sameListeners_refuse id).numbered h
  | readAnswer id => exact ⟨h.subscriptions, h.held, h.closed⟩
  | expire id => exact (c.sameListeners_expire id).numbered h
  | abandon id => exact ⟨h.subscriptions, h.held, h.closed⟩
  | subscribe accepts => exact h.subscribe accepts
  | observe method => exact h.register _ fun _ => rfl
  | observeMalformed => exact h.register _ fun _ => rfl
  | off id => exact h.off id
  | take id => exact h.take id
  | receive text =>
    simp only [Connection.apply, Connection.receive]
    split
    · exact h.dispatch _
    · exact ⟨h.subscriptions, h.held, h.closed⟩
  | hangUp => exact h.hangUp

theorem run (h : Numbered c) (operations : List Connection.Operation) :
    Numbered (c.run operations) := by
  induction operations generalizing c with
  | nil => exact h
  | cons operation rest ih => exact ih (h.apply operation)

end Numbered

/-! ### Waiters -/

/-- Whether an operation neither brings a frame nor the end of the connection, and leaves a waiter
to its owner. -/
def Connection.Operation.spares (id : SubscriptionId) : Connection.Operation → Bool
  | .receive _ | .hangUp => false
  | .off other | .take other => other ≠ id
  | _ => true

namespace Waits

variable {c : Connection} {id : SubscriptionId} {accepts : Inbound → Bool}

/-- A new waiter waits, unless the connection has ended. -/
theorem subscribe (hn : Numbered c) (accepts : Inbound → Bool) :
    Waits (c.subscribe accepts).1 (c.subscribe accepts).2 accepts ∧
      (c.subscribe accepts).1.receipt (c.subscribe accepts).2 =
        if c.isClosed then .closed else .waiting := by
  have hfresh : ∀ s ∈ c.registry.subscriptions, s.id ≠ c.registry.lastSubscription + 1 :=
    fun s hs heq => absurd (heq ▸ hn.subscriptions s hs) (Nat.not_succ_le_self _)
  have hheld : (c.held.find? fun h => h.1 = c.registry.lastSubscription + 1) = none := by
    rw [List.find?_eq_none]
    intro h hh heq
    have hid : h.1 = c.registry.lastSubscription + 1 := by simpa using heq
    exact absurd (hid ▸ hn.held h hh) (Nat.not_succ_le_self _)
  by_cases hclosed : c.registry.closed = true
  · have hsub : c.subscribe accepts =
        ({ c with registry := { c.registry with
            lastSubscription := c.registry.lastSubscription + 1 } },
          c.registry.lastSubscription + 1) := by
      simp [Connection.subscribe, Registry.registerOnce, hclosed]
    have hnone : ((c.subscribe accepts).1.held.find? fun h =>
        h.1 = (c.subscribe accepts).2) = none := by rw [hsub]; exact hheld
    rw [Connection.receipt_of_not_held hnone, hsub, Connection.isClosed, if_pos hclosed]
    refine ⟨⟨Nat.le_refl _, fun s hs hid => absurd hid (hfresh s hs)⟩, if_neg ?_⟩
    rw [Registry.isRegistered, List.any_eq_true]
    rintro ⟨s, hs, hid⟩
    exact hfresh s hs (of_decide_eq_true hid)
  · have hsub : c.subscribe accepts =
        ({ c with registry := (c.registry.register (.once accepts)).1 },
          c.registry.lastSubscription + 1) := by
      simp [Connection.subscribe, Registry.registerOnce, hclosed, Registry.register]
    have hnone : ((c.subscribe accepts).1.held.find? fun h =>
        h.1 = (c.subscribe accepts).2) = none := by rw [hsub]; exact hheld
    rw [Connection.receipt_of_not_held hnone, hsub, Connection.isClosed, if_neg hclosed]
    refine ⟨⟨Nat.le_refl _, fun s hs hid => ?_⟩, if_pos ?_⟩
    · rcases List.mem_append.1 hs with hold | hnew
      · exact absurd hid (hfresh s hold)
      · rw [List.mem_singleton.1 hnew]
    · simp [Registry.isRegistered, Registry.register]

/-- A waiter takes no part in the registration of another subscriber. -/
theorem register (h : Waits c id accepts) (s : Subscriber) :
    Waits { c with registry := (c.registry.register s).1 } id accepts := by
  refine ⟨Nat.le_succ_of_le h.numbered, fun t ht hid => ?_⟩
  rcases List.mem_append.1 ht with hold | hnew
  · exact h.once t hold hid
  · rw [List.mem_singleton.1 hnew] at hid
    exact absurd (hid ▸ h.numbered) (Nat.not_succ_le_self _)

theorem receipt_register (h : Waits c id accepts) (s : Subscriber) :
    ({ c with registry := (c.registry.register s).1 } : Connection).receipt id = c.receipt id := by
  have hne : ¬ c.registry.lastSubscription + 1 = id := by
    rintro rfl
    exact absurd h.numbered (Nat.not_succ_le_self _)
  simp [Connection.receipt, Registry.isRegistered, Registry.register, hne]

theorem other_subscribe (h : Waits c id accepts) (other : Inbound → Bool) :
    Waits (c.subscribe other).1 id accepts ∧ (c.subscribe other).1.receipt id = c.receipt id := by
  by_cases hclosed : c.registry.closed = true
  · simp only [Connection.subscribe, Registry.registerOnce, hclosed, if_true]
    exact ⟨⟨Nat.le_succ_of_le h.numbered, h.once⟩, rfl⟩
  · simp only [Connection.subscribe, Registry.registerOnce, hclosed]
    exact ⟨h.register _, h.receipt_register _⟩

theorem off (h : Waits c id accepts) (other : SubscriptionId) : Waits (c.off other).1 id accepts :=
  ⟨h.numbered, fun s hs => h.once s (List.mem_filter.1 hs).1⟩

theorem receipt_off {other : SubscriptionId} (hne : other ≠ id) :
    (c.off other).1.receipt id = c.receipt id := by
  have hregistered : (c.off other).1.registry.isRegistered id = c.registry.isRegistered id := by
    simp only [Connection.off, Registry.remove, Registry.isRegistered, List.any_filter]
    congr 1
    funext s
    by_cases hs : s.id = id <;> simp [hs, hne.symm]
  rw [Connection.receipt, hregistered]
  rfl

theorem receipt_take {other : SubscriptionId} (hne : other ≠ id) :
    (c.take other).1.receipt id = c.receipt id := by
  rw [Connection.take]
  split
  · simp only [Connection.receipt]
    rw [List.find?_filter]
    congr 2
    funext h
    by_cases hh : h.1 = id <;> simp [hh, hne.symm]
  · rfl

/-! ### Frames and the end of the connection -/

theorem dispatch (h : Waits c id accepts) (m : Inbound) : Waits (c.dispatch m) id accepts := by
  obtain ⟨-, -, -, hregistry, -⟩ := c.dispatch_eq m
  refine ⟨?_, fun s hs => ?_⟩
  · rw [hregistry, Registry.lastSubscription_dispatch]
    exact h.numbered
  · rw [hregistry, Registry.subscriptions_dispatch] at hs
    exact h.once s (List.mem_filter.1 hs).1

/-- A registered waiter takes a frame that it accepts. -/
theorem receipt_dispatch_of_accepts (h : Waits c id accepts) {m : Inbound}
    (hfind : (c.held.find? fun h => h.1 = id) = none)
    (hregistered : c.registry.isRegistered id = true) (haccepts : accepts m = true) :
    (c.dispatch m).receipt id = .frame m := by
  obtain ⟨-, -, -, -, hheld⟩ := c.dispatch_eq m
  obtain ⟨s, hs, hid⟩ := List.any_eq_true.1 hregistered
  have hsid : s.id = id := of_decide_eq_true hid
  have hmem : id ∈ (c.registry.subscriptions.filter fun s =>
      s.subscriber.takes m).map Subscription.id := by
    refine List.mem_map.2 ⟨s, List.mem_filter.2 ⟨hs, ?_⟩, hsid⟩
    rw [h.once s hs hsid, takes_once, haccepts]
  rw [Connection.receipt_eq_frame_iff, hheld, Registry.takers_dispatch, List.find?_append, hfind,
    Option.none_or, List.find?_map, Option.map_eq_some_iff]
  refine ⟨id, ?_, rfl⟩
  obtain ⟨found, hfound⟩ := Option.isSome_iff_exists.1
    (List.find?_isSome.2 ⟨id, hmem, decide_eq_true rfl⟩ : (List.find?
      ((fun h : SubscriptionId × Inbound => decide (h.1 = id)) ∘ fun id => (id, m)) _).isSome)
  have heq : found = id := by simpa using List.find?_some hfound
  rw [hfound, heq]

/-- A frame that is not taken under the number of a waiter leaves the waiter as it is. -/
theorem receipt_dispatch_of_keeps {m : Inbound}
    (hfind : (c.held.find? fun h => h.1 = id) = none)
    (hkeeps : ∀ s ∈ c.registry.subscriptions, s.id = id → s.subscriber.takes m = false) :
    (c.dispatch m).receipt id = c.receipt id := by
  obtain ⟨-, -, -, hregistry, hheld⟩ := c.dispatch_eq m
  have hnone : ((c.dispatch m).held.find? fun h => h.1 = id) = none := by
    rw [hheld, Registry.takers_dispatch, List.find?_append, hfind, Option.none_or,
      List.find?_eq_none]
    intro t ht heq
    obtain ⟨other, hother, rfl⟩ := List.mem_map.1 ht
    obtain ⟨s, hs, rfl⟩ := List.mem_map.1 hother
    have hid : s.id = id := by simpa using heq
    have hkept := hkeeps s (List.mem_filter.1 hs).1 hid
    rw [(List.mem_filter.1 hs).2] at hkept
    exact Bool.noConfusion hkept
  have hregistered : (c.dispatch m).registry.isRegistered id = c.registry.isRegistered id := by
    rw [hregistry, Registry.isRegistered, Registry.subscriptions_dispatch, List.any_filter,
      Registry.isRegistered, Bool.eq_iff_iff, List.any_eq_true, List.any_eq_true]
    constructor
    · rintro ⟨s, hs, hboth⟩
      exact ⟨s, hs, (Bool.and_eq_true _ _ ▸ hboth).2⟩
    · rintro ⟨s, hs, hid⟩
      refine ⟨s, hs, ?_⟩
      rw [hkeeps s hs (of_decide_eq_true hid)]
      simpa using hid
  rw [Connection.receipt_of_not_held hnone, Connection.receipt_of_not_held hfind, hregistered]

/-- A waiter that still waits gets a frame if it accepts it; one that does not, keeps what it
has. -/
theorem receipt_dispatch (h : Waits c id accepts) (m : Inbound) :
    (c.dispatch m).receipt id = (c.receipt id).after accepts m := by
  cases hfind : c.held.find? fun h => h.1 = id with
  | some found =>
    obtain ⟨-, -, -, -, hheld⟩ := c.dispatch_eq m
    have hid : found.1 = id := by simpa using List.find?_some hfind
    have hbefore : c.receipt id = .frame found.2 := by
      rw [Connection.receipt_eq_frame_iff, hfind, ← hid]
    rw [hbefore, Receipt.after_frame, Connection.receipt_eq_frame_iff, hheld, List.find?_append,
      hfind, Option.some_or, ← hid]
  | none =>
    have hreceipt := Connection.receipt_of_not_held hfind
    by_cases htakes : c.registry.isRegistered id = true ∧ accepts m = true
    · obtain ⟨hregistered, haccepts⟩ := htakes
      rw [h.receipt_dispatch_of_accepts hfind hregistered haccepts, hreceipt, if_pos hregistered,
        Receipt.after, if_pos haccepts]
    · have hkept := receipt_dispatch_of_keeps (m := m) hfind fun s hs hsid => by
        rw [h.once s hs hsid, takes_once, Bool.eq_false_iff]
        intro haccepts
        exact htakes ⟨List.any_eq_true.2 ⟨s, hs, decide_eq_true hsid⟩, haccepts⟩
      rw [hkept, hreceipt]
      by_cases hr : c.registry.isRegistered id = true
      · have hrefuses : ¬ accepts m = true := fun haccepts => htakes ⟨hr, haccepts⟩
        rw [if_pos hr, Receipt.after, if_neg hrefuses]
      · rw [if_neg hr, Receipt.after_closed]

theorem hangUp (h : Waits c id accepts) : Waits c.hangUp id accepts := by
  by_cases hclosed : c.registry.closed = true
  · simp only [Connection.hangUp, Registry.close, hclosed, if_true]
    exact ⟨h.numbered, h.once⟩
  · simp only [Connection.hangUp, Registry.close, hclosed]
    exact ⟨h.numbered, fun s hs => h.once s (List.mem_filter.1 hs).1⟩

/-- A waiter that still waits gets nothing any more when the connection ends. -/
theorem receipt_hangUp (h : Waits c id accepts) (hn : Numbered c) :
    c.hangUp.receipt id = (c.receipt id).atEnd := by
  have hheld : c.hangUp.held = c.held := by
    unfold Connection.hangUp
    rfl
  have hgone : c.hangUp.registry.isRegistered id = false := by
    rw [Registry.isRegistered, Bool.eq_false_iff, ne_eq, List.any_eq_true]
    rintro ⟨s, hs, hid⟩
    have honce := (h.hangUp.once s hs (of_decide_eq_true hid))
    have hended : c.hangUp.registry.closed = true := by
      simp only [Connection.hangUp, Registry.close]
      split
      · assumption
      · rfl
    have hno := hn.hangUp.closed hended s hs
    rw [honce] at hno
    exact Bool.noConfusion hno
  unfold Connection.receipt
  rw [hheld, hgone]
  split
  · rfl
  · simp only [Bool.false_eq_true, if_false]
    split <;> rfl

/-! ### Every operation -/

/-- A waiter stays one under every operation. -/
theorem apply (h : Waits c id accepts) (operation : Connection.Operation) :
    Waits (c.apply operation) id accepts := by
  cases operation with
  | issue method params => exact ⟨h.numbered, h.once⟩
  | enroll id => exact (c.sameListeners_enroll id).waits h
  | write id => exact (c.sameListeners_write id).waits h
  | refuse id => exact (c.sameListeners_refuse id).waits h
  | readAnswer id => exact ⟨h.numbered, h.once⟩
  | expire id => exact (c.sameListeners_expire id).waits h
  | abandon id => exact ⟨h.numbered, h.once⟩
  | subscribe accepts => exact (h.other_subscribe accepts).1
  | observe method => exact h.register _
  | observeMalformed => exact h.register _
  | off id => exact h.off id
  | take id =>
    simp only [Connection.apply, Connection.take]
    split <;> exact ⟨h.numbered, h.once⟩
  | receive text =>
    simp only [Connection.apply, Connection.receive]
    split
    · exact h.dispatch _
    · exact ⟨h.numbered, h.once⟩
  | hangUp => exact h.hangUp

/-- What a waiter has stays as it is under the operations that spare the waiter. -/
theorem receipt_apply (h : Waits c id accepts) {operation : Connection.Operation}
    (hs : operation.spares id = true) : (c.apply operation).receipt id = c.receipt id := by
  cases operation with
  | issue method params => rfl
  | enroll id => exact (c.sameListeners_enroll id).receipt _
  | write id => exact (c.sameListeners_write id).receipt _
  | refuse id => exact (c.sameListeners_refuse id).receipt _
  | readAnswer id => rfl
  | expire id => exact (c.sameListeners_expire id).receipt _
  | abandon id => rfl
  | subscribe accepts => exact (h.other_subscribe accepts).2
  | observe method => exact h.receipt_register _
  | observeMalformed => exact h.receipt_register _
  | off other => exact receipt_off (of_decide_eq_true hs)
  | take other => exact receipt_take (of_decide_eq_true hs)
  | receive text => exact Bool.noConfusion hs
  | hangUp => exact Bool.noConfusion hs

/-- A waiter waits only on an open connection. -/
theorem isClosed_eq_false (h : Waits c id accepts) (hn : Numbered c)
    (hr : c.receipt id = .waiting) : c.isClosed = false := by
  rw [Bool.eq_false_iff]
  intro hclosed
  have hregistered : c.registry.isRegistered id = true := by
    rw [Connection.receipt] at hr
    split at hr
    · exact Receipt.noConfusion hr
    · split at hr
      · assumption
      · exact Receipt.noConfusion hr
  obtain ⟨s, hs, hid⟩ := List.any_eq_true.1 hregistered
  have honce := hn.closed hclosed s hs
  rw [h.once s hs (of_decide_eq_true hid)] at honce
  exact Bool.noConfusion honce

/-- A waiter keeps what it has under operations that spare it. -/
theorem run (h : Waits c id accepts) {operations : List Connection.Operation}
    (hs : ∀ operation ∈ operations, operation.spares id = true) :
    Waits (c.run operations) id accepts ∧ (c.run operations).receipt id = c.receipt id := by
  induction operations generalizing c with
  | nil => exact ⟨h, rfl⟩
  | cons operation rest ih =>
    obtain ⟨hwaits, hreceipt⟩ := ih (h.apply operation) fun o ho => hs o (List.mem_cons_of_mem _ ho)
    exact ⟨hwaits, hreceipt.trans (h.receipt_apply (hs operation List.mem_cons_self))⟩

end Waits

/-! ### What only grows -/

namespace Connection

/-- Whether an operation gives a number to a subscription. -/
def Operation.registers : Operation → Bool
  | .subscribe _ | .observe _ | .observeMalformed => true
  | _ => false

/-- Numbers of subscriptions are given one after the other, whatever the state of the connection. -/
theorem lastSubscription_apply (c : Connection) (operation : Operation) :
    (c.apply operation).registry.lastSubscription =
      c.registry.lastSubscription + if operation.registers then 1 else 0 := by
  cases operation with
  | enroll id => exact (c.sameListeners_enroll id).lastSubscription
  | write id => exact (c.sameListeners_write id).lastSubscription
  | refuse id => exact (c.sameListeners_refuse id).lastSubscription
  | expire id => exact (c.sameListeners_expire id).lastSubscription
  | subscribe accepts =>
    simp only [apply, subscribe, Registry.registerOnce]
    split <;> rfl
  | take id =>
    simp only [apply, take]
    split <;> rfl
  | receive text =>
    simp only [apply, receive]
    split
    · rw [(c.dispatch_eq _).2.2.2.1, Registry.lastSubscription_dispatch]
      rfl
    · rfl
  | hangUp =>
    simp only [apply, hangUp, Registry.close]
    split <;> rfl
  | _ => rfl

theorem lastSubscription_run (c : Connection) (operations : List Operation) :
    (c.run operations).registry.lastSubscription =
      c.registry.lastSubscription + operations.countP Operation.registers := by
  induction operations generalizing c with
  | nil => rfl
  | cons operation rest ih =>
    rw [List.countP_cons, Nat.add_comm (rest.countP _), ← Nat.add_assoc,
      ← c.lastSubscription_apply operation]
    exact ih (c.apply operation)

theorem lastSubscription_le_run (c : Connection) (operations : List Operation) :
    c.registry.lastSubscription ≤ (c.run operations).registry.lastSubscription := by
  rw [lastSubscription_run]
  exact Nat.le_add_right _ _

/-- Whether an operation is the end of the connection. -/
def Operation.ends : Operation → Bool
  | .hangUp => true
  | _ => false

/-- A connection is closed by its end alone, and stays closed. -/
theorem isClosed_apply_eq (c : Connection) (operation : Operation) :
    (c.apply operation).isClosed = (c.isClosed || operation.ends) := by
  have hsame (d : Connection) (h : d.registry.closed = c.registry.closed) :
      d.isClosed = (c.isClosed || false) := h.trans (Bool.or_false _).symm
  cases operation with
  | enroll id => exact hsame _ (c.sameListeners_enroll id).closed
  | write id => exact hsame _ (c.sameListeners_write id).closed
  | refuse id => exact hsame _ (c.sameListeners_refuse id).closed
  | expire id => exact hsame _ (c.sameListeners_expire id).closed
  | subscribe accepts => exact hsame _ (sameRequests_subscribe c accepts).closed.symm
  | take id => exact hsame _ (sameRequests_take c id).closed.symm
  | receive text =>
    refine hsame _ ?_
    simp only [apply, receive]
    split
    · rw [(c.dispatch_eq _).2.2.2.1, Registry.closed_dispatch]
    · rfl
  | hangUp =>
    simp only [apply, hangUp, Registry.close, isClosed, Operation.ends, Bool.or_true]
    split
    · assumption
    · rfl
  | _ => exact hsame _ rfl

theorem isClosed_run_eq (c : Connection) (operations : List Operation) :
    (c.run operations).isClosed = (c.isClosed || operations.any Operation.ends) := by
  induction operations generalizing c with
  | nil => exact (Bool.or_false _).symm
  | cons operation rest ih =>
    rw [List.any_cons, ← Bool.or_assoc, ← c.isClosed_apply_eq operation]
    exact ih (c.apply operation)

theorem isClosed_apply {c : Connection} (h : c.isClosed = true) (operation : Operation) :
    (c.apply operation).isClosed = true := by
  rw [isClosed_apply_eq, h, Bool.true_or]

theorem isClosed_run {c : Connection} (h : c.isClosed = true) (operations : List Operation) :
    (c.run operations).isClosed = true := by
  rw [isClosed_run_eq, h, Bool.true_or]

/-- A connection that is still open was open before. -/
theorem isClosed_of_run {c : Connection} (operations : List Operation)
    (h : (c.run operations).isClosed = false) : c.isClosed = false :=
  Bool.eq_false_iff.2 fun hclosed => Bool.eq_false_iff.1 h (isClosed_run hclosed operations)

end Connection

end ValueTrace.Inspector
