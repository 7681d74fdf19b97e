import ValueTrace.Proofs.Stepping.Waiters

/-!
# The race between a pause and the end of the debuggee

When the engine looks at its two waiters, it does not see which frame came first, only which of the
two have come.  What it makes of them follows from the frames that have arrived since both began to
wait: the first pause counts, whether an end came before it or after; without a pause an end
counts, even if the connection ended after it; without either, the end of the connection.

## Main definitions

* `verdict` : what has happened to the debuggee, judged by the events since the wait began.

## Main results

* `happening?_eq_verdict` : the engine sees just that.
-/

namespace ValueTrace.Stepping

open Inspector

/-- What has happened to the debuggee in a sequence of events. -/
def verdict (context : Option Int) (events : List Event) :
    Option (Except SessionError Happening) :=
  match (heard events).find? (methodIs Method.paused.name) with
  | some m => some ((pausedEvent m).map .paused)
  | none =>
    if (heard events).any (endsContext context) then some (.ok .ended)
    else if .hangUp ∈ events then some (.error (.transport .closed))
    else none

/-- The engine sees what follows from what its two waiters get, and they get the first frames that
they accept. -/
theorem Waiting.happening?_run {e : Engine} (h : Waiting e) {events : List Event}
    {next : EventWaiters} (hnext : e.point.next? = some next)
    (hrun : (e.run events).point.next? = some next)
    (hpaused : e.connection.receipt next.paused = .waiting)
    (hended : e.connection.receipt next.ended = .waiting) :
    (e.run events).happening? next = verdict e.session.contextId events := by
  have hp := Engine.receipts_run h hnext hrun _ List.mem_cons_self
  have he := Engine.receipts_run h hnext hrun _ (List.mem_cons_of_mem _ List.mem_cons_self)
  rw [hpaused, foldl_afterEvent_waiting] at hp
  rw [hended, foldl_afterEvent_waiting] at he
  have hany : (heard events).any (endsContext e.session.contextId) =
      ((heard events).find? (endsContext e.session.contextId)).isSome := by
    rw [Bool.eq_iff_iff, List.find?_isSome, List.any_eq_true]
  rw [Engine.happening?, hp, he, verdict, hany]
  cases (heard events).find? (methodIs Method.paused.name) with
  | some m => rfl
  | none =>
    by_cases hmem : Event.hangUp ∈ events
    · rw [if_pos hmem]
      cases (heard events).find? (endsContext e.session.contextId) <;> simp [hmem]
    · rw [if_neg hmem]
      cases (heard events).find? (endsContext e.session.contextId) <;> simp [hmem]

/-- When the engine looks for what has happened to the debuggee, it goes by the frames that have
arrived since both waiters were registered, and by nothing else, whatever steps it took in
between. -/
theorem happening?_eq_verdict (o : Outset) (events more : List Event) (first : Bool)
    (next : EventWaiters) (hnext : (o.run events).point.next? = some next)
    (hpaused : ((o.run events).connection.receipt next.paused).isWaiting = true)
    (hended : ((o.run events).connection.receipt next.ended).isWaiting = true)
    (hlooks : (o.run (events ++ more)).point.looksAt? = some (first, next)) :
    let e := o.run (events ++ more)
    let outcome := verdict (o.run events).session.contextId more
    e.happening? next = outcome ∧
      e.step = (outcome.map (e.handleHappening first next)).getD e := by
  intro e outcome
  have hpoint : e.point = .awaitingEvent first next := Point.looksAt?_eq_some_iff.1 hlooks
  have hsplit : e = (o.run events).run more := o.run_append events more
  have hhappening : e.happening? next = outcome := by
    rw [hsplit]
    refine (o.waiting_run events).happening?_run hnext ?_ (Receipt.isWaiting_iff.1 hpaused)
      (Receipt.isWaiting_iff.1 hended)
    rw [← hsplit, hpoint]
    rfl
  refine ⟨hhappening, ?_⟩
  rw [← hhappening]
  simp only [Engine.step, hpoint, Engine.stepEvent]
  cases e.happening? next <;> rfl

/-! ### A pause after an end -/

/-- The debuggee has halted where it starts, and runs on. -/
def sampleResumed : List Event :=
  sampleStart ++ [.halt []] ++ steps 7 ++ [.answer 6 none, .news .resumed []] ++ steps 4

/-- The breakpoints that were hit at the pause that the engine sees. -/
def hitsSeen (e : Engine) (next : EventWaiters) : List String :=
  match e.happening? next with
  | some (.ok (.paused event)) => event.hitBreakpoints
  | _ => []

theorem exists_of_hitsSeen {e : Engine} {next : EventWaiters} {hits : List String}
    (h : hitsSeen e next = hits) (hne : hits ≠ []) :
    ∃ event, e.happening? next = some (.ok (.paused event)) ∧ event.hitBreakpoints = hits := by
  rw [hitsSeen] at h
  split at h
  · rename_i event hhappening
    exact ⟨event, hhappening, h⟩
  · exact absurd h.symm hne

/-- The engine has both waiters, and looks at them when an end and then a pause have arrived. -/
theorem sampleResumed_facts :
    let e := sample.run sampleResumed
    let e' := sample.run (sampleResumed ++ [.contextEnd 1, .halt ["line 2"]])
    (e.point.next? = some ⟨8, 9⟩ ∧ (e.connection.receipt 8).isWaiting = true ∧
      (e.connection.receipt 9).isWaiting = true) ∧
    e'.point.looksAt? = some (false, ⟨8, 9⟩) ∧
    (Event.contextEnd 1).inbound?.any (endsContext e.session.contextId) = true ∧
    hitsSeen e' ⟨8, 9⟩ = ["line 2"] := by
  decide +kernel

/-- A pause counts even though an end has arrived before it. -/
theorem pause_counts_after_end :
    let e := sample.run sampleResumed
    let e' := sample.run (sampleResumed ++ [.contextEnd 1, .halt ["line 2"]])
    (e.point.next? = some ⟨8, 9⟩ ∧ (e.connection.receipt 8).isWaiting = true ∧
      (e.connection.receipt 9).isWaiting = true) ∧
    (Event.contextEnd 1).inbound?.any (endsContext e.session.contextId) = true ∧
    ∃ event, e'.happening? ⟨8, 9⟩ = some (.ok (.paused event)) ∧
      event.hitBreakpoints = ["line 2"] := by
  obtain ⟨hwaits, -, hends, hhits⟩ := sampleResumed_facts
  exact ⟨hwaits, hends, exists_of_hitsSeen hhits (List.cons_ne_nil _ _)⟩

/-- The verdict for the same events. -/
theorem happening?_eq_verdict_sample :
    (sample.run sampleResumed).point.next? = some ⟨8, 9⟩ ∧
      (sample.run (sampleResumed ++ [.contextEnd 1, .halt ["line 2"]])).happening? ⟨8, 9⟩ =
        verdict (sample.run sampleResumed).session.contextId
          [.contextEnd 1, .halt ["line 2"]] := by
  obtain ⟨⟨hnext, hpaused, hended⟩, hlooks, -, -⟩ := sampleResumed_facts
  exact ⟨hnext, (happening?_eq_verdict sample sampleResumed
    [.contextEnd 1, .halt ["line 2"]] false ⟨8, 9⟩ hnext hpaused hended hlooks).1⟩

end ValueTrace.Stepping
