import ValueTrace.Proofs.Stepping.Halts
import ValueTrace.Proofs.Stepping.Race
import ValueTrace.Proofs.Stepping.Readings
import ValueTrace.Proofs.Stepping.Reports

/-!
# What a finished run has recorded

When a run ends with the debuggee, its histories are those of the pauses that count: every tracked
expression has one value for every such pause, which comes from the answer to the one request for
that value (`histories_follow_pauses`).

## Main definitions

* `recordOf` : the value recorded for a response.
* `Chronicle` : what has been recorded at some moment of a run.

## Main results

* `Outset.chronicle_run` : a run keeps its chronicle.
* `histories_follow_pauses` : the histories of a finished run.
-/

namespace ValueTrace.Stepping

open Inspector
open Json (Value)

variable {o : Outset} {e e' : Engine} {found : List Pause} {since : RequestId}

/-! ### Values of responses -/

/-- The value recorded for the response to an evaluation: undetermined if it is an error or cannot
be read. -/
def recordOf (r : Response) : ValueRecord :=
  match r.outcome with
  | .error _ => .undetermined
  | .ok result =>
    match Json.decodeValue Evaluation.decoder result with
    | .ok evaluation => evaluation.record
    | .error _ => .undetermined

/-- A response to an evaluation always gives a value. -/
theorem evaluationRecord_outcomeFor (r : Response) :
    evaluationRecord (r.outcomeFor Method.evaluateOnCallFrame.name) = .ok (recordOf r) := by
  rw [recordOf, Response.outcomeFor]
  cases r.outcome with
  | error body => rfl
  | ok result =>
    cases hdecode : Json.decodeValue Evaluation.decoder result <;>
      simp [evaluationRecord, Except.mapError, Except.bind, decodeResult, hdecode]

/-- The outcome of a request that was asked for in a run is its answer, or there is none. -/
theorem Outset.outcome_cases_of_asked (o : Outset) (events : List Event) {method : Method}
    {q : Request} (hq : q ∈ (o.run events).asked o.connection.lastRequest method)
    {outcome : Except TransportError Value}
    (houtcome : (o.run events).connection.outcome? q.id = some outcome) :
    (∃ r, o.Arrives events q.id r ∧ outcome = r.outcomeFor method.name) ∨
      outcome = .error .closed ∨
      ∃ limit, outcome = .error (.timeout method.name q.id limit) := by
  obtain ⟨hrequest, hselected⟩ := List.mem_filter.1 hq
  rw [Bool.and_eq_true, decide_eq_true_eq, decide_eq_true_eq] at hselected
  obtain ⟨hsince, hmethod⟩ := hselected
  rw [← hmethod]
  exact o.outcome_cases events hrequest hsince houtcome

/-! ### Chronicles -/

/-- What has been recorded at some moment of a run, unless the run has failed. -/
structure Chronicle (o : Outset) (e : Engine) : Prop where
  worksFor : WorksFor e o
  since : o.connection.lastRequest ≤ e.connection.lastRequest
  installation : Installation o e
  readings : e.point.stage = .lost ∨
    ∃ pauses readings, Judged o e pauses ∧ Ledger o e pauses readings

/-- A run that has failed does not recover. -/
theorem Advance.lost (h : Advance since e e' found) (hlost : e.point.stage = .lost) :
    e'.point.stage = .lost := by
  have hno {stage : Stage} (hbefore : e.point.stage = stage) : stage = .lost :=
    hbefore.symm.trans hlost
  cases h with
  | lose hafter => exact hafter
  | stay hstage _ _ => exact hstage.trans hlost
  | inquire hbefore => exact Stage.noConfusion (hno hbefore)
  | install hbefore => exact Stage.noConfusion (hno hbefore)
  | @reach first _ hbefore => cases first <;> exact Stage.noConfusion (hno hbefore)
  | skip hbefore => exact Stage.noConfusion (hno hbefore)
  | take hbefore => exact Stage.noConfusion (hno hbefore)
  | discover hbefore => exact Stage.noConfusion (hno hbefore)
  | ask hbefore => exact Stage.noConfusion (hno hbefore)
  | record hbefore => exact Stage.noConfusion (hno hbefore)
  | finish hbefore =>
    rcases hbefore with hbefore | hbefore <;> exact Stage.noConfusion (hno hbefore)

namespace Chronicle

theorem move (h : Chronicle o e) (ha : e.Accounted) (hmove : Move e e') : Chronicle o e' := by
  obtain ⟨hw, hsince, hinstallation, hreadings⟩ := h
  obtain ⟨-, hlast, hkept⟩ := hmove.keeps ha
  obtain ⟨found, hadvance⟩ := hmove.advance ha hsince
  refine ⟨hmove.worksFor hw, Nat.le_trans hsince hlast, hinstallation.advance hw hkept hadvance, ?_⟩
  rcases hreadings with hlost | ⟨pauses, readings, hjudged, hledger⟩
  · exact Or.inl (hadvance.lost hlost)
  · by_cases hafter : e'.point.stage = .lost
    · exact Or.inl hafter
    · obtain ⟨readings', hledger'⟩ := hledger.advance hw hkept hadvance hafter
      exact Or.inr ⟨_, readings', hjudged.advance hw hadvance, hledger'⟩

/-- What the other side does to the connection changes nothing that has been recorded. -/
theorem operation (h : Chronicle o e) (ha : e.Accounted) (operation : Connection.Operation)
    (hquiet : operation.asks = false) :
    Chronicle o { e with connection := e.connection.apply operation } := by
  obtain ⟨hw, hsince, hinstallation, hreadings⟩ := h
  obtain ⟨reply, haccounts⟩ := ha
  have hkept : ∀ id outcome, e.connection.outcome? id = some outcome →
      (e.connection.apply operation).outcome? id = some outcome :=
    fun _ _ houtcome => haccounts.outcome?_apply operation houtcome
  have hasked (method : Method) :
      Engine.asked { e with connection := e.connection.apply operation }
        o.connection.lastRequest method = e.asked o.connection.lastRequest method := by
    rw [Engine.asked, (e.connection.requests_apply operation hquiet).1, Engine.asked]
  refine ⟨⟨hw.settings, hw.program, hw.breakpoint⟩,
    Nat.le_trans hsince (haccounts.lastRequest_le_run [operation]), ?_, ?_⟩
  · refine ⟨fun hs => (hasked _).trans (hinstallation.unasked hs),
      fun call hs => (hasked _).trans (hinstallation.asked call hs), fun hs => ?_⟩
    exact (hinstallation.installed hs).of_same (hasked _) rfl hkept
  · refine hreadings.imp id ?_
    rintro ⟨pauses, readings, hjudged, hledger⟩
    exact ⟨pauses, readings, hjudged,
      hledger.of_same rfl rfl rfl (hasked _) hkept rfl rfl rfl hledger.ended⟩

end Chronicle

/-- A run keeps its chronicle. -/
theorem Outset.chronicle_run (o : Outset) (events : List Event) : Chronicle o (o.run events) := by
  refine o.run_induction events ?_ (fun e text ha h => h.operation ha (.receive text) rfl)
    (fun e ha h => h.operation ha .hangUp rfl) fun e e' ha h hmove => h.move ha hmove
  have hnone (method : Method) : o.engine.asked o.connection.lastRequest method = [] := by
    refine List.filter_eq_nil_iff.2 fun q hq => ?_
    obtain ⟨call, hcall, rfl⟩ := List.mem_map.1 hq
    have hle : call.id ≤ o.connection.lastRequest :=
      ((accounts_run o.requestBound o.past).exists_call_iff.1 ⟨call, hcall, rfl⟩).2
    have hold : ¬ o.connection.lastRequest < call.request.id := Nat.not_lt_of_le hle
    rw [Bool.and_eq_true, decide_eq_true_eq]
    exact fun hboth => hold hboth.1
  refine ⟨⟨rfl, rfl, rfl⟩, Nat.le_refl _, ⟨fun _ => hnone _, fun _ hno => Stage.noConfusion hno,
    fun hno => Bool.noConfusion hno⟩, Or.inr ⟨[], [], ⟨rfl, rfl⟩, rfl, rfl, rfl, hnone _,
    fun r hr => ?_, rfl, fun _ hno => Stage.noConfusion hno⟩⟩
  exact absurd hr List.not_mem_nil

/-! ### Candidates -/

/-- Candidates that have been found stay, unless the run fails. -/
theorem Advance.candidates {candidates : List Candidate} (h : Advance since e e' found)
    (hfound : e.session.candidates? = some candidates) :
    e'.point.stage = .lost ∨ e'.session.candidates? = some candidates := by
  cases h with
  | lose hafter => exact Or.inl hafter
  | stay _ hsame _ => exact Or.inr (hsame.candidates.trans hfound)
  | inquire _ _ hsame _ _ => exact Or.inr (hsame.candidates.trans hfound)
  | install _ _ _ _ hsame _ => exact Or.inr (hsame.candidates.trans hfound)
  | reach _ _ hsame _ => exact Or.inr (hsame.candidates.trans hfound)
  | skip _ _ _ _ hsame _ => exact Or.inr (hsame.candidates.trans hfound)
  | take _ _ _ _ hsame _ => exact Or.inr (hsame.candidates.trans hfound)
  | ask _ _ hsame _ _ => exact Or.inr (hsame.candidates.trans hfound)
  | finish _ _ hsame _ => exact Or.inr (hsame.candidates.trans hfound)
  | @discover pause _ heq =>
    have hdiscovered : e.session.isDiscovered = true := by
      rw [Session.isDiscovered, hfound]
      rfl
    obtain ⟨counted, point, hnext⟩ := Engine.evaluateNext_eq (e.discover pause) pause
      (e.discover pause).session.tracked.expressions
    rw [heq, hnext, Engine.discover, if_pos hdiscovered]
    exact Or.inr hfound
  | record _ _ _ _ heq =>
    obtain ⟨counted, point, hnext⟩ := Engine.evaluateNext_eq _ _ _
    rw [heq, hnext]
    exact Or.inr hfound

/-- Candidates that have been found stay for the rest of the run, unless it fails. -/
theorem Engine.Accounted.candidates_run (ha : e.Accounted) (events : List Event)
    {candidates : List Candidate} (hfound : e.session.candidates? = some candidates) :
    (e.run events).point.stage = .lost ∨
      (e.run events).session.candidates? = some candidates := by
  refine Engine.Accounted.run_induction (P := fun e => e.point.stage = .lost ∨
    e.session.candidates? = some candidates) ha events (Or.inr hfound) (fun _ _ _ h => h)
    (fun _ _ h => h) fun e e' ha h hmove => ?_
  obtain ⟨found, hadvance⟩ := hmove.advance ha (Nat.zero_le _)
  rcases h with hlost | hfound
  · exact Or.inl (hadvance.lost hlost)
  · exact hadvance.candidates hfound

/-! ### Finished runs -/

/-- A run that ends with the debuggee is over after the pauses it has counted. -/
theorem Engine.stage_of_outcome? {n : Nat} (h : e.outcome? = some (.ok n)) :
    e.point.stage = .ended n := by
  rw [Engine.point_of_outcome? h]
  rfl

/-- A value that was read comes from the answer to its request. -/
theorem Ledger.exists_answer {events : List Event} {pauses : List Pause}
    {readings : List Reading} (h : Ledger o (o.run events) pauses readings) {r : Reading}
    (hr : r ∈ readings) : ∃ answer, o.Arrives events r.call answer ∧ r.value = recordOf answer := by
  obtain ⟨outcome, houtcome, hrecord⟩ := h.answered r hr
  have hmem : r.request ∈ (o.run events).asked o.connection.lastRequest .evaluateOnCallFrame := by
    rw [h.requests]
    exact List.mem_append_left _ (List.mem_map_of_mem hr)
  rcases o.outcome_cases_of_asked events hmem houtcome with
    ⟨answer, harrives, rfl⟩ | rfl | ⟨limit, rfl⟩
  · rw [evaluationRecord_outcomeFor] at hrecord
    exact ⟨answer, harrives, (Except.ok.inj hrecord).symm⟩
  · exact absurd hrecord (by simp [evaluationRecord, Except.bind])
  · exact absurd hrecord (by simp [evaluationRecord, Except.bind])

/-- The number of an installed breakpoint comes from the answer to its request. -/
theorem Installed.exists_answer {events : List Event} (h : Installed o (o.run events)) :
    ∃ call answer breakpoint,
      (o.run events).asked o.connection.lastRequest .setBreakpointByUrl =
        [o.breakpointRequest call] ∧
      o.Arrives events call answer ∧
      (answer.outcomeFor Method.setBreakpointByUrl.name).bind
        (decodeResult BreakpointResult.decoder Method.setBreakpointByUrl.name) =
          .ok breakpoint ∧
      (o.run events).breakpointId = some breakpoint.id := by
  obtain ⟨call, result, breakpoint, hasked, houtcome, hdecode, hid⟩ := h
  have hmem : o.breakpointRequest call ∈
      (o.run events).asked o.connection.lastRequest .setBreakpointByUrl := by
    rw [hasked]
    exact List.mem_singleton_self _
  rcases o.outcome_cases_of_asked events hmem houtcome with
    ⟨answer, harrives, heq⟩ | hno | ⟨limit, hno⟩
  · refine ⟨call, answer, breakpoint, hasked, harrives, ?_, hid⟩
    rw [← heq]
    exact hdecode
  · exact absurd hno (by simp)
  · exact absurd hno (by simp)

/-- When a run ends with the debuggee after evaluating expressions at a number of pauses, these are
all the pauses that were read, but without the first if it was to be skipped and did not hit the
breakpoint, whose number is known from the answer to the one request for it; and the pauses that
were read were reported by frames, in the same order.  The candidates are those of the first pause
that counts and stay the same, and the tracked expressions are their texts without repetition.
Every tracked expression was asked for once at each pause that counts, in order, on the top frame,
and its history consists of the values in the answers. -/
theorem histories_follow_pauses (o : Outset) (events : List Event) (n : Nat)
    (houtcome : (o.run events).outcome? = some (.ok n)) :
    let e := o.run events
    ∃ (call : RequestId) (answer : Response) (breakpoint : BreakpointResult)
      (pauses : List Pause) (readings : List Reading),
      e.asked o.connection.lastRequest .setBreakpointByUrl = [o.breakpointRequest call] ∧
      o.Arrives events call answer ∧
      (answer.outcomeFor Method.setBreakpointByUrl.name).bind
        (decodeResult BreakpointResult.decoder Method.setBreakpointByUrl.name) =
          .ok breakpoint ∧
      (e.halts.map .ok).Sublist (reported (heard events)) ∧
      Takes o.settings (some breakpoint.id) e.halts pauses ∧
      pauses.length = n ∧
      e.session.candidates? =
        pauses.head?.map (fun pause => o.program.candidates pause.scopeStart o.line) ∧
      (∀ before after, events = before ++ after → (o.run before).session.isDiscovered = true →
        (o.run before).session.candidates? = e.session.candidates?) ∧
      e.session.tracked.expressions =
        (e.session.candidates.map Candidate.expression).eraseDups ∧
      e.asked o.connection.lastRequest .evaluateOnCallFrame = readings.map Reading.request ∧
      (∀ r ∈ readings, ∃ answer, o.Arrives events r.call answer ∧ r.value = recordOf answer) ∧
      ∀ expression ∈ e.session.tracked.expressions,
        let own := readings.filter fun r => r.expression = expression
        own.length = n ∧ own.map Reading.pause = pauses ∧
          e.session.tracked.history? expression = some (own.map Reading.value) := by
  intro e
  have hstage : e.point.stage = .ended n := Engine.stage_of_outcome? houtcome
  obtain ⟨-, -, hinstallation, hreadings⟩ := o.chronicle_run events
  obtain ⟨call, answer, breakpoint, hasked, harrives, hdecode, hid⟩ :=
    (hinstallation.installed (by rw [hstage]; rfl)).exists_answer
  rcases hreadings with hlost | ⟨pauses, readings, hjudged, hledger⟩
  · exact Stage.noConfusion (hstage.symm.trans hlost)
  have htakes : Takes o.settings (some breakpoint.id) e.halts pauses := by
    rw [Judged, hstage, hid] at hjudged
    exact hjudged
  have hleft : e.point.stage.left = [] := by rw [hstage]; rfl
  have hlength : pauses.length = n := by
    rw [hledger.count, hledger.ended n hstage, hstage]
    rfl
  refine ⟨call, answer, breakpoint, pauses, readings, hasked, harrives, hdecode,
    (o.reported_run events).read, htakes, hlength, hledger.candidates,
    fun before after hsplit hdiscovered => ?_, ?_, ?_, fun r hr => hledger.exists_answer hr,
    fun expression hexpression => ?_⟩
  · obtain ⟨candidates, hcandidates⟩ := Option.isSome_iff_exists.1 hdiscovered
    obtain ⟨reply, haccounts, -⟩ := o.exists_accounts_run before
    have hrun : e = (o.run before).run after := by
      simp only [e, hsplit]
      exact o.run_append before after
    have hkept := Engine.Accounted.candidates_run ⟨reply, haccounts⟩ after hcandidates
    rw [← hrun] at hkept
    rcases hkept with hlost | hsame
    · exact Stage.noConfusion (hstage.symm.trans hlost)
    · rw [hcandidates, hsame]
  · rw [hledger.tracked, TrackedExpressions.expressions_recordAll,
      TrackedExpressions.expressions_ofCandidates]
  · rw [hledger.requests, hstage]
    exact List.append_nil _
  · obtain ⟨hpauses, hhistory⟩ := hledger.history hleft hexpression
    refine ⟨?_, hpauses, hhistory⟩
    rw [← hlength, ← hpauses, List.length_map]

/-! ### A finished run -/

instance (e : Engine) (n : Nat) : Decidable (e.outcome? = some (.ok n)) :=
  match e.outcome? with
  | some (.ok m) => decidable_of_iff (m = n) (by simp)
  | some (.error _) => isFalse (by simp)
  | none => isFalse (by simp)

/-- After the pause at the start, which is skipped, the debuggee halts once at the breakpoint, where
the value of the one expression is 1, and then it ends. -/
def sampleFinished : List Event :=
  sampleResumed ++ [.halt ["line 2"]] ++ steps 7 ++
  [.answer 7 (some (.object [("result",
    .object [("type", .string "number"), ("description", .string "1")])]))] ++
  steps 6 ++ [.answer 8 none, .news .resumed []] ++ steps 4 ++ [.contextEnd 1] ++ steps 9

/-- The run ends after one pause, and the expression is tracked. -/
theorem sampleFinished_facts :
    (sample.run sampleFinished).outcome? = some (.ok 1) ∧
      "x" ∈ (sample.run sampleFinished).session.tracked.expressions := by
  decide +kernel

/-- The run ends after one pause, and there is one reading of the expression. -/
theorem histories_follow_pauses_sample :
    (sample.run sampleFinished).outcome? = some (.ok 1) ∧
      "x" ∈ (sample.run sampleFinished).session.tracked.expressions ∧
      ∃ readings : List Reading, readings.length = 1 ∧
        (sample.run sampleFinished).session.tracked.history? "x" =
          some (readings.map Reading.value) := by
  obtain ⟨houtcome, hexpression⟩ := sampleFinished_facts
  obtain ⟨_, _, _, _, readings, _, _, _, _, _, _, _, _, _, _, _, hhistories⟩ :=
    histories_follow_pauses sample sampleFinished 1 houtcome
  obtain ⟨hlength, -, hhistory⟩ := hhistories "x" hexpression
  exact ⟨houtcome, hexpression, _, hlength, hhistory⟩

end ValueTrace.Stepping
