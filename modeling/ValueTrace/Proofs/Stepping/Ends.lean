import ValueTrace.Proofs.Stepping.Errands
import ValueTrace.Proofs.Stepping.Lockstep
import ValueTrace.Proofs.Stepping.Race
import ValueTrace.Proofs.Stepping.Unwinding

/-!
# The end of the debuggee is heard

Before the engine lets the debuggee run, it registers waiters for the next pause and for the end.
An end that comes after that, at whatever moment, is there when the engine looks for it, so the run
ends instead of waiting for a pause that never comes (`ends_are_heard`).  An end that comes while
the debuggee is halted, before those waiters are registered, is heard by nobody who still counts
(`end_while_halted_is_lost`).

## Main results

* `ends_are_heard` : an end that comes after the debuggee was let run is not lost.
-/

namespace ValueTrace.Stepping

open Inspector

/-! ### Giving back, and the end of a run -/

namespace Engine

/-- Some steps end the run with an outcome, without a change of the state and the session. -/
def EndsWith (e : Engine) (pauses : Nat) : Prop :=
  ∃ k, (e.run (List.replicate k .step)).outcome? = some (.ok pauses) ∧
    (e.run (List.replicate k .step)).state = e.state ∧
    (e.run (List.replicate k .step)).session = e.session

/-- Once the outcome is certain, steps alone end the run, with that outcome. -/
theorem endsWith_of_unwinding {e : Engine} {pauses : Nat} (hp : e.point = .unwinding (.ok pauses)) :
    e.EndsWith pauses :=
  ⟨e.waiters.length + e.observers.length + 1, run_of_unwinding hp (by simp)⟩

end Engine

/-! ### Ends that are heard -/

/-- An end that arrives while the two waiters belong to the point is held as long as they do, if the
connection has not ended before. -/
theorem Waiting.receipt_of_frame {e : Engine} (h : Waiting e) {next : EventWaiters}
    {event : Event} {m : Inbound} {after : List Event} (hnext : e.point.next? = some next)
    (hrun : (e.run (event :: after)).point.next? = some next)
    (hopen : e.connection.isClosed = false) (ht : event.inbound? = some m)
    (hm : endsContext e.session.contextId m = true) :
    ∃ m', (e.run (event :: after)).connection.receipt next.ended = .frame m' ∧
      endsContext e.session.contextId m' = true := by
  have hmem : (next.ended, endsContext e.session.contextId) ∈
      next.waiters e.session.contextId := List.mem_cons_of_mem _ List.mem_cons_self
  have hheld := (h.of_next? hnext _ hmem).1
  obtain ⟨text, rfl, hok⟩ := Event.inbound?_eq_some_iff.1 ht
  rw [Engine.receipts_run h hnext hrun _ hmem, List.foldl_cons]
  cases hr : e.connection.receipt next.ended with
  | closed => exact absurd (h.closed _ hheld hr) (Bool.eq_false_iff.1 hopen)
  | frame m' =>
    have hkept : afterEvent (endsContext e.session.contextId) (.frame m') (.frame text) =
        .frame m' := foldl_afterEvent_frame _ m' [.frame text]
    exact ⟨m', by rw [hkept, foldl_afterEvent_frame], h.accepted _ hheld m' hr⟩
  | waiting =>
    have hgot : afterEvent (endsContext e.session.contextId) .waiting (.frame text) =
        .frame m := by simp only [afterEvent, hok, Receipt.after, hm, if_true]
    exact ⟨m, by rw [hgot, foldl_afterEvent_frame], hm⟩

/-- A run that has to wait is not about to make a request. -/
theorem Engine.isAsking_eq_false_of_isBlocked (e : Engine) (h : e.isBlocked = true) :
    e.point.isAsking = false := by
  rw [Bool.eq_false_iff]
  intro hasking
  obtain ⟨errand, hp⟩ := Point.exists_of_isAsking hasking
  simp [Engine.isBlocked, hp] at h

/-- When the engine looks for an event and holds an end, but no pause, the run ends. -/
theorem Engine.endsWith_of_ended {e : Engine} (hlock : Lockstep e) {first : Bool}
    {next : EventWaiters} (hp : e.point = .awaitingEvent first next)
    (hhappening : e.happening? next = some (.ok .ended)) :
    e.step.EndsWith e.pauses ∧ e.step.state = .terminated ∧
      e.step.session.phase = .terminated := by
  have hallowed := hlock.allows (.terminated hp hhappening)
  have hstep : e.step = { e with state := .terminated,
                                 session := enterPhase e.session .terminated,
                                 point := .unwinding (.ok e.pauses) } := by
    simp only [Engine.step, hp, Engine.stepEvent, hhappening, Engine.handleHappening]
    exact Engine.enter_of_allows hallowed _
  rw [hstep]
  exact ⟨Engine.endsWith_of_unwinding rfl, rfl, rfl⟩

namespace Outset

variable (o : Outset) {events : List Event} {next : EventWaiters}

/-- While a run waits with its two waiters, they belonged to it ever since the latest request. -/
theorem next?_of_written_length (hnext : (o.run events).point.next? = some next)
    (hblocked : (o.run events).isBlocked = true) {before after : List Event}
    (hsplit : events = before ++ after)
    (hlength : (o.run before).connection.written.length =
      (o.run events).connection.written.length) :
    (o.run before).point.next? = some next := by
  have hopen := o.isClosed_eq_false_of_isBlocked events hblocked
  have hasked := (o.run events).isAsking_eq_false_of_isBlocked hblocked
  have hrun : o.run events = (o.run before).run after := by
    rw [hsplit]
    exact o.run_append before after
  obtain ⟨reply, haccounts, -⟩ := o.exists_accounts_run before
  rw [hrun] at hnext hasked hopen hlength
  exact (Engine.next?_of_written ⟨reply, haccounts⟩ hnext hasked hopen hlength).1

/-- An end that came since the waiters were registered is held. -/
theorem exists_ended_receipt (hnext : (o.run events).point.next? = some next)
    (hblocked : (o.run events).isBlocked = true) {before : List Event} {event : Event}
    {after : List Event} {m : Inbound} (hsplit : events = before ++ event :: after)
    (hbefore : (o.run before).point.next? = some next) (hm : event.inbound? = some m)
    (hends : endsContext (o.run events).session.contextId m = true) :
    ∃ m', (o.run events).connection.receipt next.ended = .frame m' ∧
      endsContext (o.run events).session.contextId m' = true := by
  have hopen := o.isClosed_eq_false_of_isBlocked events hblocked
  have hthere := o.waiting_run before
  have hrun : o.run events = (o.run before).run (event :: after) := by
    rw [hsplit]
    exact o.run_append before _
  rw [hrun] at hnext hopen hends ⊢
  have hcontext := (Engine.next?_of_run _ hnext (Engine.ended_le hthere hbefore)).2
  rw [hcontext] at hends ⊢
  exact hthere.receipt_of_frame hbefore hnext (Engine.isClosed_of_run _ hopen) hm hends

/-- A run that holds an end does not wait for an event with the same waiters, and without a pause it
ends. -/
theorem ends_of_receipt (hnext : (o.run events).point.next? = some next) {m : Inbound}
    (hreceipt : (o.run events).connection.receipt next.ended = .frame m) {later : List Event}
    {first : Bool} (hp : (o.run (events ++ later)).point = .awaitingEvent first next) :
    let e := o.run (events ++ later)
    e.isBlocked = false ∧ ((∀ m', e.connection.receipt next.paused ≠ .frame m') →
      e.step.EndsWith e.pauses ∧ e.step.state = .terminated ∧
        e.step.session.phase = .terminated) := by
  intro e
  have hrun : e = (o.run events).run later := o.run_append events later
  have hlast : e.point.next? = some next := by
    rw [hp]
    rfl
  have hkept : e.connection.receipt next.ended = .frame m := by
    have hmem : (next.ended, endsContext (o.run events).session.contextId) ∈
        next.waiters (o.run events).session.contextId :=
      List.mem_cons_of_mem _ List.mem_cons_self
    rw [hrun] at hlast ⊢
    rw [Engine.receipts_run (o.waiting_run events) hnext hlast _ hmem, hreceipt,
      foldl_afterEvent_frame]
  refine ⟨?_, fun hno => ?_⟩
  · rw [Engine.isBlocked, hp]
    simp only [Engine.happening?, hkept]
    cases e.connection.receipt next.paused <;> rfl
  · have hhappening : e.happening? next = some (.ok .ended) := by
      rw [Engine.happening?, hkept]
      cases hr : e.connection.receipt next.paused with
      | frame m' => exact absurd hr (hno m')
      | closed => rfl
      | waiting => rfl
    exact Engine.endsWith_of_ended (o.lockstep_run _) hp hhappening

end Outset

/-- No end is lost once the debuggee runs.  When the run has to wait while it holds the waiters for
the next event, the latest request is the one that lets the debuggee run, and both waiters were
registered before it was written.  If an end has arrived since they were registered, the waiter for
it holds one.  Whenever the engine then looks for an event with these waiters it does not have to
wait, and if there is no pause the run ends terminated. -/
theorem ends_are_heard (o : Outset) (events : List Event) (next : EventWaiters)
    (hnext : (o.run events).point.next? = some next)
    (hblocked : (o.run events).isBlocked = true) :
    let e := o.run events
    let ends := endsContext e.session.contextId
    (∃ q, e.connection.written.getLast? = some q ∧
      (q.method = Method.runIfWaitingForDebugger.name ∨ q.method = Method.resume.name)) ∧
    (∀ before after, events = before ++ after →
      (o.run before).connection.written.length = e.connection.written.length →
      (o.run before).point.next? = some next) ∧
    (∀ before event after m, events = before ++ event :: after →
      (o.run before).point.next? = some next → event.inbound? = some m → ends m = true →
      ∃ m', e.connection.receipt next.ended = .frame m' ∧ ends m' = true) ∧
    (∀ m later first, e.connection.receipt next.ended = .frame m →
      (e.run later).point = .awaitingEvent first next →
      (e.run later).isBlocked = false ∧
      ((∀ m', (e.run later).connection.receipt next.paused ≠ .frame m') →
        (e.run later).step.EndsWith (e.run later).pauses ∧
        (e.run later).step.state = .terminated ∧
        (e.run later).step.session.phase = .terminated)) := by
  intro e ends
  have hopen : e.connection.isClosed = false := o.isClosed_eq_false_of_isBlocked events hblocked
  have hasked : e.point.isAsking = false := e.isAsking_eq_false_of_isBlocked hblocked
  refine ⟨o.letRun_run events next hnext hasked hopen,
    fun before after hsplit hlength => o.next?_of_written_length hnext hblocked hsplit hlength,
    fun before event after m hsplit hbefore hm hends =>
      o.exists_ended_receipt hnext hblocked hsplit hbefore hm hends,
    fun m later first hreceipt hp => ?_⟩
  have hrun : e.run later = o.run (events ++ later) := (o.run_append events later).symm
  rw [hrun] at hp ⊢
  exact o.ends_of_receipt hnext hreceipt hp

/-! ### Ends that are not heard -/

/-- The debuggee has halted where it starts, its context ends, and only then the engine registers
its waiters and lets it run on. -/
def sampleLost : List Event :=
  sampleStart ++ [.halt []] ++ steps 1 ++ [.contextEnd 1] ++
  steps 6 ++ [.answer 6 none, .news .resumed []] ++ steps 4

/-- An end that comes while the debuggee is halted is lost: the run waits for the next event, the
end has come after the debuggee was first let run, and the waiter for it holds nothing. -/
theorem end_while_halted_is_lost :
    let before := sample.run (sampleStart ++ [.halt []] ++ steps 1)
    let e := sample.run sampleLost
    (before.connection.written.any fun q => q.method == Method.runIfWaitingForDebugger.name) =
      true ∧
      (Event.contextEnd 1).inbound?.any (endsContext e.session.contextId) = true ∧
      e.isBlocked = true ∧ e.point.looksAt? = some (false, ⟨8, 9⟩) ∧
      (e.connection.receipt 9).isWaiting = true := by
  decide +kernel

/-- The same end, after the waiters were registered. -/
theorem ends_are_heard_sample :
    ∃ m', (sample.run (sampleStart ++ [.halt []] ++ steps 7 ++ [.contextEnd 1])).connection.receipt
        9 = .frame m' ∧
      endsContext (sample.run (sampleStart ++ [.halt []] ++ steps 7 ++
        [.contextEnd 1])).session.contextId m' = true := by
  have hfacts :
      (sample.run (sampleStart ++ [.halt []] ++ steps 7)).point.next? = some ⟨8, 9⟩ ∧
      (sample.run (sampleStart ++ [.halt []] ++ steps 7 ++ [.contextEnd 1])).point.next? =
        some ⟨8, 9⟩ ∧
      (sample.run (sampleStart ++ [.halt []] ++ steps 7 ++ [.contextEnd 1])).isBlocked = true ∧
      (Event.contextEnd 1).inbound?.any (endsContext (sample.run (sampleStart ++ [.halt []] ++
        steps 7 ++ [.contextEnd 1])).session.contextId) = true := by
    decide +kernel
  obtain ⟨hbefore, hnext, hblocked, hends⟩ := hfacts
  obtain ⟨m, hm, hendsm⟩ := (Option.any_eq_true _ _).1 hends
  exact (ends_are_heard sample _ ⟨8, 9⟩ hnext hblocked).2.2.1 _ _ [] m rfl hbefore hm hendsm

end ValueTrace.Stepping
