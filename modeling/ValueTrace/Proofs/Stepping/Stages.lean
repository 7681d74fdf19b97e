import ValueTrace.Proofs.Stepping.Errands

/-!
# The stages of a run

As far as the recorded values are concerned, a run goes through few stages: the breakpoint is
installed, pauses are reached and skipped or taken, expressions are evaluated one by one, and in the
end the debuggee is gone.  Most moves stay in their stage and record nothing; the others are listed
here once and for all (`Move.advance`).

## Main definitions

* `Stage`, `Point.stage` : where a run is.
* `SameRecord` : two engines that have recorded the same.
* `Engine.asked` : the requests of one method that were made since a number was given.
* `Advance` : what a move means for the record.

## Main results

* `Move.advance` : every move is one of these advances.
-/

namespace ValueTrace.Stepping

open Inspector
open Json (Value)

/-! ### Stages -/

/-- Where a run is, as far as the recorded values are concerned. -/
inductive Stage where
  /-- The breakpoint has not been asked for. -/
  | setup
  /-- Waiting for the breakpoint. -/
  | installing (call : RequestId)
  /-- The breakpoint is installed, and no pause has been reached. -/
  | ready
  /-- A pause has been reached, and nothing was done about it. -/
  | reached (first : Bool) (event : PausedEvent)
  /-- Expressions are about to be looked for at a pause. -/
  | discovering (pause : Pause)
  /-- About to evaluate an expression at a pause, with others to follow. -/
  | asking (pause : Pause) (expression : String) (rest : List String)
  /-- Waiting for the value of an expression. -/
  | evaluating (pause : Pause) (expression : String) (rest : List String) (call : RequestId)
  /-- Between two pauses. -/
  | between
  /-- The debuggee has ended, after a number of evaluated pauses. -/
  | ended (pauses : Nat)
  /-- The run has failed, or has not begun. -/
  | lost

/-- The stage in which a request is about to be made. -/
def Errand.stage : Errand → Stage
  | .evaluate pause expression rest => .asking pause expression rest
  | .release _ => .ready
  | .resume .. => .between
  | _ => .setup

/-- The stage in which the answer to a request is awaited. -/
def Errand.stageAwaiting (errand : Errand) (call : RequestId) : Stage :=
  match errand with
  | .evaluate pause expression rest => .evaluating pause expression rest call
  | .setBreakpoint => .installing call
  | _ => errand.stage

/-- The stage of a point. -/
def Point.stage : Point → Stage
  | .observing _ | .expectingContext | .readingContext _ | .releasingContext _ => .setup
  | .asking errand => errand.stage
  | .awaitingReply errand call => errand.stageAwaiting call
  | .configured | .expectingFirstPause | .expectingFirstEnd _ | .awaitingEvent true _ => .ready
  | .releasingEvent _ event => .reached false event
  | .halted first event => .reached first event
  | .discovering pause => .discovering pause
  | .awaitingEvent false _ | .resuming | .expectingResumed | .expectingPause _
  | .expectingEnd .. | .awaitingResumed .. | .releasingResumed .. | .resumed _ => .between
  | .unwinding (.ok pauses) | .finished (.ok pauses) => .ended pauses
  | .unwinding (.error _) | .finished (.error _) | .unstarted | .abandoned => .lost

/-- An expression is evaluated only while the answer for it is awaited. -/
theorem Point.eq_of_evaluating {point : Point} {pause : Pause} {expression : String}
    {rest : List String} {call : RequestId}
    (h : point.stage = .evaluating pause expression rest call) :
    point = .awaitingReply (.evaluate pause expression rest) call := by
  cases point with
  | asking errand => cases errand <;> exact Stage.noConfusion h
  | awaitingReply errand other =>
    cases errand with
    | evaluate pause' expression' rest' =>
      obtain ⟨rfl, rfl, rfl, rfl⟩ := Stage.evaluating.inj h
      rfl
    | _ => exact Stage.noConfusion h
  | awaitingEvent first => cases first <;> exact Stage.noConfusion h
  | unwinding outcome | finished outcome => cases outcome <;> exact Stage.noConfusion h
  | _ => exact Stage.noConfusion h

/-- A request that needs no more than success stays in its stage. -/
theorem Errand.stage_next {errand : Errand} {point : Point} (call : RequestId)
    (h : errand.next? = some point) : point.stage = errand.stageAwaiting call := by
  cases errand <;> simp only [Errand.next?, Option.some.injEq, reduceCtorEq] at h
  all_goals
    subst h
    rfl

/-! ### Records and requests -/

/-- Two engines that have recorded the same. -/
structure SameRecord (e e' : Engine) : Prop where
  candidates : e'.session.candidates? = e.session.candidates?
  tracked : e'.session.tracked = e.session.tracked
  breakpointId : e'.breakpointId = e.breakpointId
  halts : e'.halts = e.halts
  pauses : e'.pauses = e.pauses

/-- To enter a phase changes nothing that a session has recorded. -/
theorem enterPhase_eq (session : Session) (next : EngineState) :
    ∃ phase, enterPhase session next = { session with phase } := by
  rw [enterPhase]
  split
  · exact ⟨session.phase, rfl⟩
  · exact ⟨_, rfl⟩

/-- The requests of a method that were made since a number was given. -/
def Engine.asked (e : Engine) (since : RequestId) (method : Method) : List Request :=
  e.connection.requests.filter fun q => since < q.id && q.method = method.name

/-- A request comes last among those of its method, and is none of another method. -/
theorem Engine.asked_ask {e : Engine} (ha : e.Accounted) {since : RequestId}
    (hsince : since ≤ e.connection.lastRequest) (errand : Errand) (method : Method) :
    (e.ask errand).asked since method = e.asked since method ++
      if errand.method.name = method.name then
        [⟨e.connection.lastRequest + 1, method.name, e.params errand⟩]
      else [] := by
  obtain ⟨reply, haccounts⟩ := ha
  have hrequests : (e.ask errand).connection.requests = e.connection.requests ++
      [⟨e.connection.lastRequest + 1, errand.method.name, e.params errand⟩] := by
    change (e.connection.send errand.method.name (e.params errand)).1.calls.map _ = _
    rw [haccounts.calls_send, List.map_append]
    rfl
  have hnew : since < e.connection.lastRequest + 1 := Nat.lt_succ_of_le hsince
  rw [asked, asked, hrequests, List.filter_append]
  congr 1
  by_cases h : errand.method.name = method.name
  · simp [h, hnew]
  · simp [h]

/-- Two engines that have asked for the same breakpoints and the same values. -/
structure SameInquiries (since : RequestId) (e e' : Engine) : Prop where
  values : e'.asked since .evaluateOnCallFrame = e.asked since .evaluateOnCallFrame
  breakpoints : e'.asked since .setBreakpointByUrl = e.asked since .setBreakpointByUrl

theorem SameInquiries.of_requests {since : RequestId} {e e' : Engine}
    (h : e'.connection.requests = e.connection.requests) : SameInquiries since e e' := by
  constructor <;> rw [Engine.asked, h, Engine.asked]

/-! ### Advances -/

/-- What a move means for the record, with the pauses at which it begins to evaluate. -/
inductive Advance (since : RequestId) (e e' : Engine) : List Pause → Prop
  | lose (hafter : e'.point.stage = .lost) : Advance since e e' []
  | stay (hstage : e'.point.stage = e.point.stage) (hsame : SameRecord e e')
      (hinquiries : SameInquiries since e e') : Advance since e e' []
  | inquire {call} (hbefore : e.point.stage = .setup) (hafter : e'.point.stage = .installing call)
      (hsame : SameRecord e e')
      (hvalues : e'.asked since .evaluateOnCallFrame = e.asked since .evaluateOnCallFrame)
      (hbreakpoints : e'.asked since .setBreakpointByUrl = e.asked since .setBreakpointByUrl ++
        [⟨call, Method.setBreakpointByUrl.name, e.params .setBreakpoint⟩]) : Advance since e e' []
  | install {call result breakpoint} (hbefore : e.point.stage = .installing call)
      (hafter : e'.point.stage = .ready)
      (houtcome : e'.connection.outcome? call = some (.ok result))
      (hdecode : decodeResult BreakpointResult.decoder Method.setBreakpointByUrl.name result =
        .ok breakpoint)
      (hsame : SameRecord { e with breakpointId := some breakpoint.id } e')
      (hinquiries : SameInquiries since e e') : Advance since e e' []
  | reach {first event} (hbefore : e.point.stage = if first then .ready else .between)
      (hafter : e'.point.stage = .reached first event)
      (hsame : SameRecord { e with halts := e.halts ++ [event] } e')
      (hinquiries : SameInquiries since e e') : Advance since e e' []
  | skip {first event pause} (hbefore : e.point.stage = .reached first event)
      (hpause : Pause.ofEvent? event = .ok pause) (hskip : e.skips first pause = true)
      (hafter : e'.point.stage = .between) (hsame : SameRecord e e')
      (hinquiries : SameInquiries since e e') : Advance since e e' []
  | take {first event pause} (hbefore : e.point.stage = .reached first event)
      (hpause : Pause.ofEvent? event = .ok pause) (hskip : e.skips first pause = false)
      (hafter : e'.point.stage = .discovering pause) (hsame : SameRecord e e')
      (hinquiries : SameInquiries since e e') : Advance since e e' []
  | discover {pause} (hbefore : e.point.stage = .discovering pause)
      (heq : e' = (e.discover pause).evaluateNext pause
        (e.discover pause).session.tracked.expressions) : Advance since e e' [pause]
  | ask {pause expression rest call} (hbefore : e.point.stage = .asking pause expression rest)
      (hafter : e'.point.stage = .evaluating pause expression rest call) (hsame : SameRecord e e')
      (hvalues : e'.asked since .evaluateOnCallFrame = e.asked since .evaluateOnCallFrame ++
        [⟨call, Method.evaluateOnCallFrame.name,
          some (evaluationParams pause.callFrameId expression true true)⟩])
      (hbreakpoints : e'.asked since .setBreakpointByUrl = e.asked since .setBreakpointByUrl) :
      Advance since e e' []
  | record {pause expression rest call connection outcome value}
      (hbefore : e.point.stage = .evaluating pause expression rest call)
      (houtcome : connection.outcome? call = some outcome)
      (hrecord : evaluationRecord outcome = .ok value)
      (hrequests : connection.requests = e.connection.requests)
      (heq : e' = { e with connection, session := e.session.record expression value }.evaluateNext
        pause rest) : Advance since e e' []
  | finish (hbefore : e.point.stage = .ready ∨ e.point.stage = .between)
      (hafter : e'.point.stage = .ended e.pauses) (hsame : SameRecord e e')
      (hinquiries : SameInquiries since e e') : Advance since e e' []

variable {since : RequestId} {e e' : Engine}

/-- To enter a state changes no record. -/
theorem Entry.sameRecord (next : EngineState) (point : Point) :
    SameRecord e { e with state := next, session := enterPhase e.session next, point } := by
  obtain ⟨phase, heq⟩ := enterPhase_eq e.session next
  rw [heq]
  exact ⟨rfl, rfl, rfl, rfl, rfl⟩

theorem Entry.advance {next : EngineState} {point : Point} (h : Entry e next point) :
    Advance since e
      { e with state := next, session := enterPhase e.session next, point } [] := by
  have hsame := Entry.sameRecord (e := e) next point
  have hinquiries : SameInquiries since e
      { e with state := next, session := enterPhase e.session next, point } := .of_requests rfl
  cases h with
  | configuring hp => exact .stay (by rw [hp]; rfl) hsame hinquiries
  | waitingForInitialPause hp => exact .stay (by rw [hp]; rfl) hsame hinquiries
  | evaluating hp hpause hskip => exact .take (by rw [hp]; rfl) hpause hskip rfl hsame hinquiries
  | resuming hp => exact .stay (by rw [hp]; rfl) hsame hinquiries
  | waitingForPause hp => exact .stay (by rw [hp]; rfl) hsame hinquiries
  | @terminated first next hp hhappening =>
    refine .finish ?_ rfl hsame hinquiries
    cases first with
    | true => exact Or.inl (by rw [hp]; rfl)
    | false => exact Or.inr (by rw [hp]; rfl)

theorem Expectation.stage {accepts : Inbound → Bool} {point : SubscriptionId → Point}
    (h : Expectation e accepts point) (id : SubscriptionId) :
    (point id).stage = e.point.stage := by
  cases h <;> rw [‹e.point = _›] <;> rfl

theorem Return.stage {id : SubscriptionId} {point : Point} (h : Return e id point) :
    point.stage = e.point.stage := by
  cases h <;> rw [‹e.point = _›] <;> rfl

/-- To make a request is an advance if it asks for a breakpoint or for a value. -/
theorem Engine.advance_ask (ha : e.Accounted) (hsince : since ≤ e.connection.lastRequest)
    {errand : Errand} (hp : e.point = .asking errand) : Advance since e (e.ask errand) [] := by
  have hsame : SameRecord e (e.ask errand) := ⟨rfl, rfl, rfl, rfl, rfl⟩
  have hasked := Engine.asked_ask ha hsince errand
  have hother (method : Method) (hne : errand.method.name ≠ method.name) :
      (e.ask errand).asked since method = e.asked since method := by
    rw [hasked method, if_neg hne, List.append_nil]
  have hown : (e.ask errand).asked since errand.method = e.asked since errand.method ++
      [⟨e.connection.lastRequest + 1, errand.method.name, e.params errand⟩] := by
    rw [hasked, if_pos rfl]
  have hstay (hvalues : errand.method.name ≠ Method.evaluateOnCallFrame.name)
      (hbreakpoints : errand.method.name ≠ Method.setBreakpointByUrl.name)
      (hstage : (e.ask errand).point.stage = errand.stage) : Advance since e (e.ask errand) [] :=
    .stay (by rw [hstage, hp]; rfl) hsame ⟨hother _ hvalues, hother _ hbreakpoints⟩
  have hdifferent : Method.setBreakpointByUrl.name ≠ Method.evaluateOnCallFrame.name := by decide
  cases errand with
  | setBreakpoint => exact .inquire (by rw [hp]; rfl) rfl hsame (hother _ hdifferent) hown
  | evaluate pause expression rest =>
    exact .ask (by rw [hp]; rfl) rfl hsame hown (hother _ hdifferent.symm)
  | _ =>
    exact hstay (by simp [Errand.method, Method.name]) (by simp [Errand.method, Method.name]) rfl

theorem Answered.requests {errand : Errand} {call : RequestId} {connection : Connection}
    {outcome : Except TransportError Value} (h : Answered e errand call connection outcome) :
    connection.requests = e.connection.requests := by
  obtain ⟨operations, heq, hquiet⟩ := h.operates
  rw [heq]
  exact (Connection.requests_run fun operation hop => (hquiet operation hop).2
    (by rw [h.point]; rfl)).1

/-- Every move is an advance. -/
theorem Move.advance (h : Move e e') (ha : e.Accounted)
    (hsince : since ≤ e.connection.lastRequest) : ∃ found, Advance since e e' found := by
  cases hasking : e.point.isAsking with
  | true =>
    obtain ⟨errand, hp⟩ := Point.exists_of_isAsking hasking
    rw [h.eq_ask hp]
    exact ⟨[], Engine.advance_ask ha hsince hp⟩
  | false =>
    have hinquiries : SameInquiries since e e' := .of_requests (h.requests hasking).1
    have hstay (hstage : e'.point.stage = e.point.stage) (hsame : SameRecord e e') :
        ∃ found, Advance since e e' found := ⟨[], .stay hstage hsame hinquiries⟩
    cases h with
    | observe hp => exact hstay (by rw [hp]; rfl) ⟨rfl, rfl, rfl, rfl, rfl⟩
    | enter hentry _ => exact ⟨[], hentry.advance⟩
    | refuse _ _ => exact ⟨[], .lose rfl⟩
    | expect hw => exact hstay (hw.stage _) ⟨rfl, rfl, rfl, rfl, rfl⟩
    | giveBack hr => exact hstay hr.stage ⟨rfl, rfl, rfl, rfl, rfl⟩
    | ask hp =>
      rw [hp] at hasking
      exact Bool.noConfusion hasking
    | proceed hanswered hnext =>
      refine hstay ?_ ⟨rfl, rfl, rfl, rfl, rfl⟩
      rw [hanswered.point]
      exact Errand.stage_next _ hnext
    | install hanswered hdecode =>
      exact ⟨[], .install (by rw [hanswered.point]; rfl) rfl hanswered.outcome hdecode
        ⟨rfl, rfl, rfl, rfl, rfl⟩ hinquiries⟩
    | record hanswered hrecord =>
      exact ⟨[], .record (by rw [hanswered.point]; rfl) hanswered.outcome hrecord
        hanswered.requests rfl⟩
    | @note created m hp hreceipt =>
      refine hstay (by rw [hp]; rfl) ?_
      unfold Engine.noteContext
      split
      · exact ⟨rfl, rfl, rfl, rfl, rfl⟩
      · split <;> exact ⟨rfl, rfl, rfl, rfl, rfl⟩
    | noteNothing hp _ => exact hstay (by rw [hp]; rfl) ⟨rfl, rfl, rfl, rfl, rfl⟩
    | @pause first next event hp hhappening =>
      have hsame : SameRecord { e with halts := e.halts ++ [event] } { e with
          halts := e.halts ++ [event],
          point := if first then .halted true event
            else .releasingEvent [next.ended, next.paused] event } := ⟨rfl, rfl, rfl, rfl, rfl⟩
      cases first with
      | true => exact ⟨[], .reach (by rw [hp]; rfl) rfl hsame hinquiries⟩
      | false => exact ⟨[], .reach (by rw [hp]; rfl) rfl hsame hinquiries⟩
    | halt hp => exact hstay (by rw [hp]; rfl) ⟨rfl, rfl, rfl, rfl, rfl⟩
    | skip hp hpause hskip =>
      exact ⟨[], .skip (by rw [hp]; rfl) hpause hskip rfl ⟨rfl, rfl, rfl, rfl, rfl⟩ hinquiries⟩
    | @discover pause hp => exact ⟨[pause], .discover (by rw [hp]; rfl) rfl⟩
    | acknowledge hp _ => exact hstay (by rw [hp]; rfl) ⟨rfl, rfl, rfl, rfl, rfl⟩
    | fail _ => exact ⟨[], .lose rfl⟩
    | releaseWaiter hp _ => exact hstay rfl ⟨rfl, rfl, rfl, rfl, rfl⟩
    | releaseObserver hp _ _ => exact hstay rfl ⟨rfl, rfl, rfl, rfl, rfl⟩
    | @conclude outcome hp _ _ =>
      cases outcome with
      | ok pauses => exact hstay (by rw [hp]; rfl) ⟨rfl, rfl, rfl, rfl, rfl⟩
      | error error => exact ⟨[], .lose rfl⟩

end ValueTrace.Stepping
