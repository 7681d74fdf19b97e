import ValueTrace.Inspector.Connection

/-!
# The way of a frame through a registry

The scan of `sweep` removes subscriptions while it advances.  Here its outcome is described at
once, for the whole list: who takes the frame leaves, who looks at it stays, and the order of the
list is kept (`sweep_append`).  From this follows what one dispatch does to the pending requests
and to the subscriptions (`pending_dispatch`, `subscriptions_dispatch`, `takers_dispatch`), and
which request a response answers (`reply?_eq_some_iff`).

## Main definitions

* `Registry.isExpected` : whether the answer to a request is expected.
* `Subscriber.takes` : whether a subscriber takes a frame.
-/

namespace ValueTrace.Inspector

open Json (Value)

/-- Whether a subscriber takes a frame and ends. -/
def Subscriber.takes (s : Subscriber) (m : Inbound) : Bool := s.reaction m = .takes

/-- Whether a subscriber looks at a frame and stays. -/
def Subscriber.observes (s : Subscriber) (m : Inbound) : Bool := s.reaction m = .observes

/-- A subscriber for one frame takes exactly the frames that it accepts. -/
@[simp] theorem takes_once (accepts : Inbound → Bool) (m : Inbound) :
    (Subscriber.once accepts).takes m = accepts m := by
  by_cases h : accepts m <;> simp [Subscriber.takes, Subscriber.reaction, h]

/-! ### The scan of the subscriptions -/

/-- From a position on, the scan takes out of the list exactly the subscriptions that take the
frame, and notes takers and observers in the order of the list. -/
theorem sweep_append (m : Inbound) (front : List Subscription)
    (takers observers : List SubscriptionId) (rest : List Subscription) :
    sweep m ⟨front ++ rest, takers, observers⟩ front.length =
      ⟨front ++ rest.filter fun s => !s.subscriber.takes m,
        takers ++ (rest.filter fun s => s.subscriber.takes m).map Subscription.id,
        observers ++ (rest.filter fun s => s.subscriber.observes m).map Subscription.id⟩ := by
  -- Along the part of the list that is still ahead; the front grows by what stays.
  induction rest generalizing front takers observers with
  | nil =>
    rw [sweep]
    simp
  | cons s rest ih =>
    have hlt : front.length < (front ++ s :: rest).length := by simp
    have hs : (front ++ s :: rest)[front.length] = s := by simp
    have hpass (takers' observers' : List SubscriptionId) :
        sweep m ⟨front ++ s :: rest, takers', observers'⟩ (front.length + 1) =
          ⟨front ++ s :: rest.filter fun s => !s.subscriber.takes m,
            takers' ++ (rest.filter fun s => s.subscriber.takes m).map Subscription.id,
            observers' ++ (rest.filter fun s => s.subscriber.observes m).map Subscription.id⟩ := by
      simpa using ih (front ++ [s]) takers' observers'
    rw [sweep]
    simp only [List.length_append, List.length_cons, Nat.lt_add_right_iff_pos, Nat.zero_lt_succ,
      ↓reduceDIte, hs]
    cases hr : s.subscriber.reaction m with
    | takes =>
      have herase : (front ++ s :: rest).eraseIdx front.length = front ++ rest := by
        rw [List.eraseIdx_append_of_length_le (Nat.le_refl _)]
        simp
      simp only [herase]
      rw [ih front]
      simp [Subscriber.takes, Subscriber.observes, hr]
    | observes =>
      simp only [hpass]
      simp [Subscriber.takes, Subscriber.observes, hr]
    | ignores =>
      simp only [hpass]
      simp [Subscriber.takes, Subscriber.observes, hr]

namespace Registry

variable (r : Registry) (m : Inbound)

/-- Whether the answer to a request is expected. -/
def isExpected (id : RequestId) : Bool := r.pending.any fun p => p.id = id

theorem isExpected_iff (id : RequestId) : r.isExpected id = true ↔ ∃ p ∈ r.pending, p.id = id := by
  simp [isExpected]

/-! ### One dispatch -/

/-- A frame passes the subscriptions in one scan of the whole list, whichever request it answers:
its takers leave, and takers and observers are told in the order of the list. -/
theorem swept_dispatch :
    (⟨(r.dispatch m).registry.subscriptions, (r.dispatch m).takers, (r.dispatch m).observers⟩ :
      Sweep) =
    ⟨r.subscriptions.filter fun s => !s.subscriber.takes m,
      (r.subscriptions.filter fun s => s.subscriber.takes m).map Subscription.id,
      (r.subscriptions.filter fun s => s.subscriber.observes m).map Subscription.id⟩ := by
  refine .trans ?_ (sweep_append m [] [] [] r.subscriptions)
  cases m <;> rfl

/-- A frame leaves the list without its takers. -/
theorem subscriptions_dispatch :
    (r.dispatch m).registry.subscriptions =
      r.subscriptions.filter fun s => !s.subscriber.takes m :=
  congrArg Sweep.subscriptions (r.swept_dispatch m)

/-- The subscriptions that take a frame, in the order of the list. -/
theorem takers_dispatch :
    (r.dispatch m).takers =
      (r.subscriptions.filter fun s => s.subscriber.takes m).map Subscription.id :=
  congrArg Sweep.takers (r.swept_dispatch m)

/-- The subscriptions that look at a frame, in the order of the list. -/
theorem observers_dispatch :
    (r.dispatch m).observers =
      (r.subscriptions.filter fun s => s.subscriber.observes m).map Subscription.id :=
  congrArg Sweep.observers (r.swept_dispatch m)

/-- Of the pending requests a frame removes at most the one that it answers. -/
theorem pending_dispatch :
    (r.dispatch m).registry.pending = r.pending.filter fun p => m.id? ≠ some p.id := by
  cases m with
  | notification n => exact (List.filter_eq_self.2 fun _ _ => rfl).symm
  | response answer =>
    simp only [dispatch, Inbound.id?, forget]
    exact List.filter_congr fun p _ => by simp [eq_comm]

@[simp] theorem lastSubscription_dispatch :
    (r.dispatch m).registry.lastSubscription = r.lastSubscription := by
  cases m <;> rfl

@[simp] theorem closed_dispatch : (r.dispatch m).registry.closed = r.closed := by
  cases m <;> rfl

@[simp] theorem reply_dispatch : (r.dispatch m).reply = r.reply? m := by
  cases m <;> rfl

/-! ### Who is expected -/

/-- After a frame exactly the requests are expected that were and that it does not answer. -/
theorem isExpected_dispatch (id : RequestId) :
    (r.dispatch m).registry.isExpected id = (r.isExpected id && decide (m.id? ≠ some id)) := by
  rw [Bool.eq_iff_iff, Bool.and_eq_true, isExpected_iff, isExpected_iff, pending_dispatch]
  simp only [List.mem_filter, decide_eq_true_eq]
  constructor
  · rintro ⟨p, ⟨hp, hm⟩, rfl⟩
    exact ⟨⟨p, hp, rfl⟩, hm⟩
  · rintro ⟨⟨p, hp, rfl⟩, hm⟩
    exact ⟨p, ⟨hp, hm⟩, rfl⟩

theorem isExpected_forget (id other : RequestId) :
    (r.forget id).isExpected other = (r.isExpected other && decide (other ≠ id)) := by
  rw [Bool.eq_iff_iff, Bool.and_eq_true, isExpected_iff, isExpected_iff]
  simp only [forget, List.mem_filter, decide_eq_true_eq]
  constructor
  · rintro ⟨p, ⟨hp, hne⟩, rfl⟩
    exact ⟨⟨p, hp, rfl⟩, hne⟩
  · rintro ⟨⟨p, hp, rfl⟩, hne⟩
    exact ⟨p, ⟨hp, hne⟩, rfl⟩

theorem isExpected_expect (id other : RequestId) (method : String) :
    (r.expect id method).isExpected other = (r.isExpected other || decide (other = id)) := by
  rw [Bool.eq_iff_iff, Bool.or_eq_true, isExpected_iff, isExpected_iff]
  simp only [expect, List.mem_append, List.mem_filter, List.mem_singleton, decide_eq_true_eq]
  constructor
  · rintro ⟨p, ⟨hp, -⟩ | rfl, rfl⟩
    · exact Or.inl ⟨p, hp, rfl⟩
    · exact Or.inr rfl
  · rintro (⟨p, hp, rfl⟩ | rfl)
    · by_cases hid : p.id = id
      · exact ⟨⟨id, method⟩, Or.inr rfl, hid.symm⟩
      · exact ⟨p, Or.inl ⟨hp, hid⟩, rfl⟩
    · exact ⟨⟨other, method⟩, Or.inr rfl, rfl⟩

/-- A frame answers no request exactly when it is a notification or its request is not expected. -/
theorem reply?_eq_none_iff :
    r.reply? m = none ↔ ∀ id, m.id? = some id → r.isExpected id = false := by
  cases m with
  | notification n => simp [reply?, Inbound.id?]
  | response answer => simp [reply?, Inbound.id?, isExpected]

/-- A frame that answers a request is a response with its id, and the result is its outcome under
the method of the request. -/
theorem exists_of_reply?_eq_some {id : RequestId} {outcome : Except TransportError Value}
    (h : r.reply? m = some (id, outcome)) :
    ∃ answer : Response, m = .response answer ∧ answer.id = id ∧ ∃ p ∈ r.pending, p.id = id ∧
      outcome = answer.outcome.mapError (TransportError.ofBody p.method) := by
  cases m with
  | notification n => simp [reply?] at h
  | response answer =>
    simp only [reply?, Option.map_eq_some_iff, Prod.mk.injEq] at h
    obtain ⟨p, hp, hid, rfl⟩ := h
    have heq : p.id = answer.id := by simpa using List.find?_some hp
    exact ⟨answer, rfl, heq.symm.trans hid, p, List.mem_of_find?_eq_some hp, hid, rfl⟩

end Registry

end ValueTrace.Inspector
