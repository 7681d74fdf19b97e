import ValueTrace.Proofs.Stepping.Lockstep
import ValueTrace.Proofs.Stepping.Noise

/-!
# The context of a session

A session knows the context in which its program runs from the announcement of that context.  A run
ends with the debuggee because its waiter for the end of the context holds a frame.  The waiter got
it from the frames that have arrived (`Outset.heard_of_held`), and it accepts the end of that
context, and news of an end that cannot be read.  The ends of other contexts are ignored wherever
they arrive, so that a run with them goes like the run without them (`only_own_context_ends`).

## Main definitions

* `endedContext?` : the context whose end a frame announces.
* `Point.seeksContext` : the points at which the context may still be announced.
* `EndsOther` : a text that announces the end of another context.

## Main results

* `Outset.heard_of_held` : what a waiter has was heard.
* `Outset.exists_end` : the end of a run was heard.
* `only_own_context_ends` : which frames may end a run, and which do not.
* `unreadable_end_counts` : an end that names no context.
-/

namespace ValueTrace.Stepping

open Inspector

variable {e e' : Engine} {id : Int}

/-! ### Announced ends -/

/-- What a frame says about the context that has ended, if it announces the end of one. -/
def endedContext? : Inbound → Option (Except Json.DecodeError Int)
  | .response _ => none
  | .notification n =>
    if n.method = Method.executionContextDestroyed.name then some (n.decode contextDestroyed)
    else none

theorem endedContext?_eq_some_iff {m : Inbound} {read : Except Json.DecodeError Int} :
    endedContext? m = some read ↔ ∃ n, m = .notification n ∧
      n.method = Method.executionContextDestroyed.name ∧ n.decode contextDestroyed = read := by
  cases m with
  | response r => simp [endedContext?]
  | notification n => simp [endedContext?]

/-- If a context is known, its end is announced by the frames that carry it, and by those that
cannot be read. -/
theorem endsContext_some_iff {m : Inbound} :
    endsContext (some id) m = true ↔
      endedContext? m = some (.ok id) ∨ ∃ error, endedContext? m = some (.error error) := by
  cases m with
  | response r => simp [endsContext, endedContext?]
  | notification n =>
    by_cases hmethod : n.method = Method.executionContextDestroyed.name
    · cases hread : n.decode contextDestroyed <;> simp [endsContext, endedContext?, hmethod, hread]
    · simp [endsContext, endedContext?, hmethod]

/-- A text announces the end of a context other than this one. -/
def EndsOther (id : Int) (text : String) : Prop :=
  ∃ m other, Inbound.ofText? text = .ok m ∧ endedContext? m = some (.ok other) ∧ other ≠ id

/-- A text in which the end of another context is read announces that. -/
theorem endsOther_of_read {text : String} {other : Int}
    (h : ((Event.frame text).inbound?.bind endedContext?).bind Except.toOption = some other)
    (hother : other ≠ id) : EndsOther id text := by
  obtain ⟨read, hread, hok⟩ := Option.bind_eq_some_iff.1 h
  obtain ⟨m, hm, hread⟩ := Option.bind_eq_some_iff.1 hread
  obtain ⟨text', htext, ht⟩ := Event.inbound?_eq_some_iff.1 hm
  obtain rfl := Event.frame.inj htext
  cases read with
  | error error => exact absurd hok (by simp [Except.toOption])
  | ok found =>
    obtain rfl := Option.some.inj hok
    exact ⟨m, found, ht, hread, hother⟩

/-! ### When the context is known -/

/-- Whether the context may still be announced at a point. -/
def Point.seeksContext : Point → Bool
  | .unstarted | .observing _ | .expectingContext | .readingContext _ => true
  | .asking (.enableDebugger _) | .awaitingReply (.enableDebugger _) _ => true
  | .asking (.enableRuntime _) | .awaitingReply (.enableRuntime _) _ => true
  | _ => false

/-- As long as the context may still be announced, no waiter accepts an end. -/
theorem Point.accepts_of_seeksContext {point : Point} (h : point.seeksContext = true)
    {context : Option Int} {w : SubscriptionId × (Inbound → Bool)}
    (hw : w ∈ point.waiters context) : w.2 = methodIs Method.executionContextCreated.name := by
  cases point with
  | readingContext created => rw [List.mem_singleton.1 hw]
  | asking errand | awaitingReply errand _ =>
    cases errand with
    | enableDebugger created | enableRuntime created => rw [List.mem_singleton.1 hw]
    | _ => exact Bool.noConfusion h
  | unstarted | observing _ | expectingContext => exact absurd hw List.not_mem_nil
  | _ => exact Bool.noConfusion h

/-- After that the context stays as it is. -/
theorem Move.contextId_eq (h : Move e e') (hp : e.point.seeksContext = false) :
    e'.point.seeksContext = false ∧ e'.session.contextId = e.session.contextId := by
  have hno {point : Point} (hat : e.point = point) (hseeks : point.seeksContext = true) :
      e'.point.seeksContext = false ∧ e'.session.contextId = e.session.contextId := by
    rw [hat, hseeks] at hp
    exact Bool.noConfusion hp
  cases h with
  | observe hat => exact hno hat rfl
  | enter hentry _ =>
    have hcontext := Waiting.contextId_enterPhase e.session
    cases hentry with
    | configuring hat => exact hno hat rfl
    | _ => exact ⟨rfl, hcontext _⟩
  | expect hw =>
    cases hw with
    | context hat => exact hno hat rfl
    | _ => exact ⟨rfl, rfl⟩
  | giveBack hr => cases hr <;> exact ⟨rfl, rfl⟩
  | @ask errand hat =>
    rw [hat] at hp
    cases errand <;> exact ⟨hp, rfl⟩
  | @proceed errand _ _ _ _ ha hnext =>
    rw [ha.point] at hp
    cases errand <;> simp only [Errand.next?, Option.some.injEq, reduceCtorEq] at hnext
    case enableDebugger => exact Bool.noConfusion hp
    case enableRuntime => exact Bool.noConfusion hp
    all_goals
      subst hnext
      exact ⟨rfl, rfl⟩
  | @record pause expression rest => cases rest <;> exact ⟨rfl, rfl⟩
  | note hat _ | noteNothing hat _ => exact hno hat rfl
  | @pause first => cases first <;> exact ⟨rfl, rfl⟩
  | @discover pause =>
    have hcontext : (e.discover pause).session.contextId = e.session.contextId := by
      rw [Engine.discover]
      split <;> rfl
    cases (e.discover pause).session.tracked.expressions <;> exact ⟨rfl, hcontext⟩
  | releaseWaiter hat _ | releaseObserver hat _ _ => exact ⟨hp, rfl⟩
  | @conclude outcome =>
    cases outcome with
    | ok pauses => exact ⟨rfl, rfl⟩
    | error error =>
      refine ⟨rfl, ?_⟩
      change e.session.fail.contextId = _
      rw [Session.fail]
      split <;> rfl
  | _ => exact ⟨rfl, rfl⟩

/-- For the rest of the run the context stays as it is. -/
theorem Engine.contextId_run (hp : e.point.seeksContext = false) (events : List Event) :
    (e.run events).session.contextId = e.session.contextId :=
  (Engine.run_induction (P := fun e' => e'.point.seeksContext = false ∧
    e'.session.contextId = e.session.contextId) events ⟨hp, rfl⟩ (fun _ _ h => h) (fun _ h => h)
    fun _ _ h hmove => (hmove.contextId_eq h.1).imp id fun hcontext => hcontext.trans h.2).2

/-! ### Ends that are ignored -/

/-- The end of another context is ignored, also while no context is known. -/
theorem Engine.ignores_of_endsOther {text : String} (h : EndsOther id text)
    (hcontext : e.point.seeksContext = false → e.session.contextId = some id) :
    e.Ignores text := by
  intro m ht
  obtain ⟨m', other, ht', hread, hother⟩ := h
  obtain rfl : m' = m := Except.ok.inj (ht'.symm.trans ht)
  have hends : endsContext (some id) m' = false := by
    rw [Bool.eq_false_iff, ne_eq, endsContext_some_iff, hread]
    simp [hother]
  obtain ⟨n, rfl, hmethod, -⟩ := endedContext?_eq_some_iff.1 hread
  have hplain {method : Method} (hm : method ∈ plainMethods) :
      methodIs method.name (.notification n) = false := by
    have hnames : ∀ method ∈ plainMethods, method.name ≠ Method.executionContextDestroyed.name := by
      decide
    exact decide_eq_false fun heq =>
      hnames method hm ((Option.some.inj heq).symm.trans hmethod)
  refine ⟨rfl, fun w hw => ?_⟩
  cases hseeks : e.point.seeksContext with
  | true =>
    rw [Point.accepts_of_seeksContext hseeks hw]
    exact hplain (by decide)
  | false =>
    rcases Point.accepts_of_mem_waiters hw with heq | ⟨method, hmem, heq⟩ <;> rw [heq]
    · rw [hcontext hseeks]
      exact hends
    · exact hplain hmem

/-- If the session has a context in the end, the ends of others are ignored wherever they arrive. -/
theorem Outset.Padded.ignores {o : Outset} {quiet events : List Event}
    (h : o.Padded (fun _ text => EndsOther id text) quiet events)
    (hcontext : (o.run events).session.contextId = some id) :
    o.Padded Engine.Ignores quiet events := by
  -- What holds at the end of the run holds of every part of it from where the context is settled.
  suffices hall : ∀ more, ((o.run events).run more).session.contextId = some id →
      o.Padded Engine.Ignores quiet events from hall [] hcontext
  clear hcontext
  induction h with
  | nil => exact fun _ _ => .nil
  | @both quiet events _ event ih =>
    refine fun more hmore => (ih (event :: more) ?_).both event
    rw [o.run_concat] at hmore
    exact hmore
  | @put quiet events _ text hother ih =>
    intro more hmore
    rw [o.run_concat] at hmore
    have hrest : ((o.run events).run (.frame text :: more)).session.contextId = some id := hmore
    refine (ih _ hrest).put text (Engine.ignores_of_endsOther hother fun hseeks => ?_)
    rw [← hrest, Engine.contextId_run hseeks]

/-! ### The end that was heard -/

/-- What a waiter has was heard. -/
theorem Outset.heard_of_held (o : Outset) (events : List Event) :
    ∀ w ∈ (o.run events).held, ∀ m, (o.run events).connection.receipt w.1 = .frame m →
      m ∈ heard events := by
  induction events using List.reverseRecOn with
  | nil => exact fun w hw => absurd hw List.not_mem_nil
  | append_singleton events event ih =>
    intro w hw m hm
    rw [o.run_concat] at hw hm
    rcases (o.waiting_run events).origin_apply hw hm with ⟨hheld, hold⟩ | ⟨hlive, text, rfl, ht⟩
    · exact (heard_sublist events event).subset (ih w hheld m hold)
    · rw [heard_concat (o.hangUp_not_mem events hlive) ht]
      exact List.mem_append_right _ (List.mem_singleton_self _)

/-- An end has happened when the waiter for it holds a frame. -/
theorem Engine.receipt_of_ended {next : EventWaiters}
    (h : e.happening? next = some (.ok .ended)) :
    ∃ m, e.connection.receipt next.ended = .frame m := by
  rw [happening?] at h
  split at h <;> simp only [Option.some.injEq, reduceCtorEq] at h
  · rename_i m _
    cases hm : pausedEvent m <;> simp [hm, Except.map] at h
  · exact ⟨_, by assumption⟩
  · exact ⟨_, by assumption⟩

/-- The state for the end is entered only when an end has happened. -/
theorem Move.of_terminated (h : Move e e') (hlock : Lockstep e) (hstate : e'.state = .terminated) :
    e.state = .terminated ∨ ∃ first next, e.point = .awaitingEvent first next ∧
      e.happening? next = some (.ok .ended) := by
  cases h with
  | enter hentry _ =>
    cases hentry with
    | terminated hp hhappening => exact Or.inr ⟨_, _, hp, hhappening⟩
    | _ => exact EngineState.noConfusion hstate
  | refuse hentry hrefused => exact absurd (hlock.allows hentry) (Bool.eq_false_iff.1 hrefused)
  | @record pause expression rest => cases rest <;> exact Or.inl hstate
  | note hp _ =>
    obtain ⟨session, heq⟩ := e.noteContext_eq _
    rw [heq] at hstate
    exact Or.inl hstate
  | @discover pause hp =>
    obtain ⟨session, heq⟩ := e.discover_eq pause
    rw [heq] at hstate
    obtain ⟨pauses, point, hnext⟩ := Engine.evaluateNext_eq { e with session } pause
      session.tracked.expressions
    rw [hnext] at hstate
    exact Or.inl hstate
  | @conclude outcome =>
    cases outcome with
    | ok pauses => exact Or.inl hstate
    | error error =>
      rw [Engine.conclude] at hstate
      split at hstate
      · exact Or.inl hstate
      · exact EngineState.noConfusion hstate
  | _ => exact Or.inl hstate

/-- An event ends the run with the debuggee only when an end has happened before it. -/
theorem Lockstep.of_terminated_apply (h : Lockstep e) {event : Event}
    (hstate : (e.apply event).state = .terminated) :
    e.state = .terminated ∨ ∃ first next, e.point = .awaitingEvent first next ∧
      e.happening? next = some (.ok .ended) := by
  rcases e.apply_cases event with ⟨connection, hsame⟩ | hmove
  · rw [hsame] at hstate
    exact Or.inl hstate
  · exact hmove.of_terminated h hstate

/-- When the run has ended with the debuggee, the context is settled. -/
theorem Lockstep.seeksContext_eq_false (h : Lockstep e) (hstate : e.state = .terminated) :
    e.point.seeksContext = false := by
  have hpoint := h.point
  rw [hstate] at hpoint
  cases hp : e.point with
  | asking errand | awaitingReply errand _ =>
    cases errand <;> simp_all [Point.admits, Errand.admits]
  | _ => simp_all [Point.admits, Point.seeksContext]

/-- A run that has ended with the debuggee has heard of the end of its context. -/
theorem Outset.exists_end (o : Outset) (events : List Event)
    (hstate : (o.run events).state = .terminated) :
    ∃ m ∈ heard events, endsContext (o.run events).session.contextId m = true := by
  induction events using List.reverseRecOn with
  | nil => exact EngineState.noConfusion hstate
  | append_singleton events event ih =>
    have hlock := o.lockstep_run events
    have hheard := (heard_sublist events event).subset
    have hsettled (hseeks : (o.run events).point.seeksContext = false) :
        ((o.run events).apply event).session.contextId = (o.run events).session.contextId :=
      Engine.contextId_run hseeks [event]
    rw [o.run_concat] at hstate ⊢
    rcases hlock.of_terminated_apply hstate with hold | ⟨first, next, hp, hhappening⟩
    · obtain ⟨m, hm, hends⟩ := ih hold
      rw [hsettled (hlock.seeksContext_eq_false hold)]
      exact ⟨m, hheard hm, hends⟩
    · obtain ⟨m, hm⟩ := Engine.receipt_of_ended hhappening
      have hmem : (next.ended, endsContext (o.run events).session.contextId) ∈
          (o.run events).held := by
        rw [Engine.held, hp]
        exact List.mem_cons_of_mem _ List.mem_cons_self
      rw [hsettled (by rw [hp]; rfl)]
      exact ⟨m, hheard (o.heard_of_held events _ hmem m hm),
        (o.waiting_run events).accepted _ hmem m hm⟩

/-! ### What ends a run -/

/-- Only the context of the session ends its run.  Whatever arrives in a run that knows its context,
the run ends with the debuggee only after a frame has announced the end of just that context, or
cannot be read as the end of any; and when ends of other contexts are put in at any places, the run
sends the same requests, records the same and ends alike. -/
theorem only_own_context_ends (o : Outset) (events : List Event) {id : Int}
    (hcontext : (o.run events).session.contextId = some id) :
    let e := o.run events
    (e.state = .terminated → ∃ m ∈ heard events,
      endedContext? m = some (.ok id) ∨ ∃ error, endedContext? m = some (.error error)) ∧
    ∀ quiet, o.Padded (fun _ text => EndsOther id text) quiet events →
      let e' := o.run quiet
      e.connection.written = e'.connection.written ∧ e.outcome? = e'.outcome? ∧
        e.state = e'.state ∧ e.point = e'.point ∧ e.session = e'.session := by
  intro e
  refine ⟨fun hstate => ?_, fun quiet hpadded => ?_⟩
  · obtain ⟨m, hm, hends⟩ := o.exists_end events hstate
    rw [hcontext, endsContext_some_iff] at hends
    exact ⟨m, hm, hends⟩
  · obtain ⟨c, hrun, halike⟩ := o.exists_alike (fun _ _ h => h) (hpadded.ignores hcontext)
    have he : e = (o.run quiet).on c := hrun
    rw [he]
    exact ⟨halike.requests.written.symm, rfl, rfl, rfl, rfl⟩

/-- In a resumed run, another context ends, and then the one of the session. -/
def sampleEnded : List Event :=
  sampleResumed ++ [.contextEnd 2] ++ [.contextEnd 1] ++ steps 1

/-- The run ends with its own context, as it does without the other end. -/
theorem only_own_context_ends_sample :
    (sample.run sampleEnded).session.contextId = some 1 ∧
      (sample.run sampleEnded).state = .terminated ∧
      (∃ m ∈ heard sampleEnded, endedContext? m = some (.ok 1) ∨
        ∃ error, endedContext? m = some (.error error)) ∧
      (sample.run sampleEnded).session =
        (sample.run (sampleResumed ++ [.contextEnd 1] ++ steps 1)).session := by
  have hfacts : (sample.run sampleEnded).session.contextId = some 1 ∧
      (sample.run sampleEnded).state = .terminated := by
    decide +kernel
  obtain ⟨hcontext, hstate⟩ := hfacts
  obtain ⟨hends, hothers⟩ := only_own_context_ends sample sampleEnded hcontext
  have hother : EndsOther 1 (Inbound.notification ⟨Method.executionContextDestroyed.name,
      .object [("executionContextId", .ofNat 2)]⟩).text :=
    endsOther_of_read (by decide +kernel) (by decide : (2 : Int) ≠ 1)
  have hpadded : sample.Padded (fun _ text => EndsOther 1 text)
      (sampleResumed ++ [.contextEnd 1] ++ steps 1) sampleEnded := by
    have hbefore : sample.Padded (fun _ text => EndsOther 1 text) sampleResumed sampleResumed :=
      .refl _
    have h := (hbefore.put _ hother).append ([.contextEnd 1] ++ steps 1)
    simpa only [sampleEnded, Event.contextEnd, Event.news, List.append_assoc] using h
  exact ⟨hcontext, hstate, hends hstate, (hothers _ hpadded).2.2.2.2⟩

/-- An end that names no context ends the run of a session that knows its own, although the end of
that context was never announced. -/
theorem unreadable_end_counts :
    let events := sampleResumed ++ [.news .executionContextDestroyed []] ++ steps 1
    (sample.run events).session.contextId = some 1 ∧ (sample.run events).state = .terminated ∧
      ∀ m ∈ heard events, endedContext? m ≠ some (.ok 1) := by
  intro events
  have hfacts : (sample.run events).session.contextId = some 1 ∧
      (sample.run events).state = .terminated ∧
      ((heard events).all fun m => (endedContext? m).bind Except.toOption ≠ some 1) = true := by
    decide +kernel
  obtain ⟨hcontext, hstate, hheard⟩ := hfacts
  refine ⟨hcontext, hstate, fun m hm hread => ?_⟩
  have hother := List.all_eq_true.1 hheard m hm
  simp [hread, Except.toOption] at hother

end ValueTrace.Stepping
