import ValueTrace.Proofs.Scope.Histories
import ValueTrace.Proofs.Stepping.Stages

/-!
# Readings

At every pause that counts, the engine reads the value of every tracked expression, in order and one
by one.  What it has read so far, and what it is reading now, accounts for the requests it has made,
for the histories it has recorded and for the pauses it has counted (`Ledger`).

## Main definitions

* `Reading` : the value of an expression at a pause.
* `Ledger` : the readings of a run, and what they account for.
* `InOrder` : what is still to be read comes last.

## Main results

* `Ledger.advance` : every advance keeps the ledger.
* `Ledger.history` : what is recorded for an expression.
* `Ledger.exists_history` : how much is recorded for an expression that is being evaluated.
-/

namespace ValueTrace.Stepping

open Inspector
open Json (Value)

/-! ### Readings -/

/-- The request for the value of an expression on a call frame as it stands on the wire, silent and
without side effects. -/
def evaluationRequest (call : RequestId) (callFrameId expression : String) : Request :=
  ⟨call, "Debugger.evaluateOnCallFrame",
    some (.object [("callFrameId", .string callFrameId), ("expression", .string expression),
      ("throwOnSideEffect", .bool true), ("silent", .bool true)])⟩

/-- The value of an expression at a pause, with the request that asked for it. -/
structure Reading where
  pause : Pause
  expression : String
  call : RequestId
  value : ValueRecord

namespace Reading

/-- What is read. -/
def topic (r : Reading) : Pause × String := (r.pause, r.expression)

/-- What is recorded. -/
def entry (r : Reading) : String × ValueRecord := (r.expression, r.value)

/-- The request for a value on the top frame of a pause. -/
def request (r : Reading) : Request :=
  evaluationRequest r.call r.pause.callFrameId r.expression

end Reading

/-- What is still to be read at the present pause. -/
def Stage.left : Stage → List (Pause × String)
  | .asking pause expression rest | .evaluating pause expression rest _ =>
    (pause, expression) :: rest.map (pause, ·)
  | _ => []

/-- The request for the value that is being read. -/
def Stage.awaited : Stage → List Request
  | .evaluating pause expression _ call => [evaluationRequest call pause.callFrameId expression]
  | _ => []

/-- The number of pauses that have begun to count and are not counted yet. -/
def Stage.begun : Stage → Nat
  | .asking .. | .evaluating .. => 1
  | _ => 0

/-! ### The ledger -/

/-- The readings of a run so far account for what it has done. -/
structure Ledger (o : Outset) (e : Engine) (pauses : List Pause) (readings : List Reading) :
    Prop where
  /-- The candidates are those of the first pause. -/
  candidates : e.session.candidates? =
    pauses.head?.map fun pause => o.program.candidates pause.scopeStart o.line
  tracked : e.session.tracked =
    (TrackedExpressions.ofCandidates e.session.candidates).recordAll (readings.map Reading.entry)
  /-- At every pause all tracked expressions are read in order. -/
  rounds : readings.map Reading.topic ++ e.point.stage.left =
    pauses.flatMap fun pause => e.session.tracked.expressions.map (pause, ·)
  requests : e.asked o.connection.lastRequest .evaluateOnCallFrame =
    readings.map Reading.request ++ e.point.stage.awaited
  answered : ∀ r ∈ readings, ∃ outcome, e.connection.outcome? r.call = some outcome ∧
    evaluationRecord outcome = .ok r.value
  count : pauses.length = e.pauses + e.point.stage.begun
  ended : ∀ n, e.point.stage = .ended n → n = e.pauses

namespace Ledger

variable {o : Outset} {e e' : Engine} {pauses found : List Pause} {readings : List Reading}

/-- The ledger is the same while nothing is recorded, counted or asked for. -/
theorem of_same (h : Ledger o e pauses readings)
    (hcandidates : e'.session.candidates? = e.session.candidates?)
    (htracked : e'.session.tracked = e.session.tracked) (hpauses : e'.pauses = e.pauses)
    (hvalues : e'.asked o.connection.lastRequest .evaluateOnCallFrame =
      e.asked o.connection.lastRequest .evaluateOnCallFrame)
    (hkept : ∀ id outcome, e.connection.outcome? id = some outcome →
      e'.connection.outcome? id = some outcome)
    (hleft : e'.point.stage.left = e.point.stage.left)
    (hawaited : e'.point.stage.awaited = e.point.stage.awaited)
    (hbegun : e'.point.stage.begun = e.point.stage.begun)
    (hended : ∀ n, e'.point.stage = .ended n → n = e'.pauses) : Ledger o e' pauses readings where
  candidates := hcandidates.trans h.candidates
  tracked := by
    rw [htracked, h.tracked, Session.candidates, Session.candidates, hcandidates]
  rounds := by rw [hleft, htracked, h.rounds]
  requests := by rw [hvalues, h.requests, hawaited]
  answered r hr := by
    obtain ⟨outcome, houtcome, hrecord⟩ := h.answered r hr
    exact ⟨outcome, hkept _ _ houtcome, hrecord⟩
  count := by rw [h.count, hpauses, hbegun]
  ended := hended

/-- When a pause has begun to count, the engine goes on with the expressions that are left. -/
theorem evaluateNext (pause : Pause) (expressions : List String)
    (hcandidates : e.session.candidates? =
      pauses.head?.map fun pause => o.program.candidates pause.scopeStart o.line)
    (htracked : e.session.tracked = (TrackedExpressions.ofCandidates
      e.session.candidates).recordAll (readings.map Reading.entry))
    (hrounds : readings.map Reading.topic ++ expressions.map (pause, ·) =
      pauses.flatMap fun pause => e.session.tracked.expressions.map (pause, ·))
    (hrequests : e.asked o.connection.lastRequest .evaluateOnCallFrame =
      readings.map Reading.request)
    (hanswered : ∀ r ∈ readings, ∃ outcome, e.connection.outcome? r.call = some outcome ∧
      evaluationRecord outcome = .ok r.value)
    (hcount : pauses.length = e.pauses + 1) :
    Ledger o (e.evaluateNext pause expressions) pauses readings := by
  cases expressions with
  | nil =>
    exact ⟨hcandidates, htracked, hrounds, hrequests.trans (List.append_nil _).symm, hanswered,
      hcount, fun _ hno => Stage.noConfusion hno⟩
  | cons expression rest =>
    exact ⟨hcandidates, htracked, hrounds, hrequests.trans (List.append_nil _).symm, hanswered,
      hcount, fun _ hno => Stage.noConfusion hno⟩

/-- Discovery happens at the first pause that counts, and at no other. -/
theorem discover (h : Ledger o e pauses readings) (hw : WorksFor e o) {pause : Pause}
    (hbefore : e.point.stage = .discovering pause) :
    Ledger o ((e.discover pause).evaluateNext pause
      (e.discover pause).session.tracked.expressions) (pauses ++ [pause]) readings := by
  obtain ⟨hcandidates, htracked, hrounds, hrequests, hanswered, hcount, -⟩ := h
  simp only [hbefore, Stage.left, Stage.awaited, Stage.begun, List.append_nil, Nat.add_zero]
    at hrounds hrequests hcount
  have hlength : (pauses ++ [pause]).length = e.pauses + 1 := by
    rw [List.length_append, hcount]
    rfl
  cases hpauses : pauses with
  | nil =>
    -- No pause has counted yet, so nothing has been found and nothing has been read.
    subst hpauses
    have hreadings : readings = [] := List.map_eq_nil_iff.1 hrounds
    have hundiscovered : e.session.isDiscovered = false := by
      rw [Session.isDiscovered, hcandidates]
      rfl
    have hdiscover : e.discover pause = { e with
        session := e.session.setCandidates (o.program.candidates pause.scopeStart o.line) } := by
      rw [Engine.discover, if_neg (Bool.eq_false_iff.1 hundiscovered), hw.program, hw.breakpoint]
      rfl
    rw [hdiscover, hreadings]
    refine evaluateNext pause _ rfl rfl ?_ ?_ ?_ hlength
    · simp
    · rw [hreadings] at hrequests
      exact hrequests
    · simp
  | cons first rest =>
    have hdiscovered : e.session.isDiscovered = true := by
      rw [Session.isDiscovered, hcandidates, hpauses]
      rfl
    have hdiscover : e.discover pause = e := by rw [Engine.discover, if_pos hdiscovered]
    rw [hdiscover, ← hpauses]
    refine evaluateNext pause _ ?_ htracked ?_ hrequests hanswered hlength
    · rw [hcandidates, hpauses]
      rfl
    · rw [hrounds, List.flatMap_append]
      simp

/-- A value that was read is recorded. -/
theorem record (h : Ledger o e pauses readings)
    (hkept : ∀ id outcome, e.connection.outcome? id = some outcome →
      e'.connection.outcome? id = some outcome)
    {pause : Pause} {expression : String} {rest : List String} {call : RequestId}
    {connection : Connection} {outcome : Except TransportError Value} {value : ValueRecord}
    (hbefore : e.point.stage = .evaluating pause expression rest call)
    (houtcome : connection.outcome? call = some outcome)
    (hrecord : evaluationRecord outcome = .ok value)
    (hrequests : connection.requests = e.connection.requests)
    (heq : e' = { e with connection, session := e.session.record expression value }.evaluateNext
      pause rest) : Ledger o e' pauses (readings ++ [⟨pause, expression, call, value⟩]) := by
  have hconnection : e'.connection = connection := by
    obtain ⟨counted, point, hnext⟩ := Engine.evaluateNext_eq
      { e with connection, session := e.session.record expression value } pause rest
    rw [heq, hnext]
  rw [hconnection] at hkept
  obtain ⟨hcandidates, htracked, hrounds, hasked, hanswered, hcount, -⟩ := h
  simp only [hbefore, Stage.left, Stage.awaited, Stage.begun] at hrounds hasked hcount
  rw [heq]
  refine evaluateNext pause rest hcandidates ?_ ?_ ?_ ?_ hcount
  · rw [List.map_append, List.map_singleton, TrackedExpressions.recordAll_concat]
    change (e.session.tracked.record expression value).1 = _
    rw [htracked]
    rfl
  · change _ = pauses.flatMap fun pause =>
      (e.session.tracked.record expression value).1.expressions.map (pause, ·)
    rw [TrackedExpressions.expressions_record, ← hrounds, List.map_append, List.append_assoc]
    rfl
  · rw [List.map_append, List.map_singleton, ← List.append_nil (readings.map Reading.request)]
    rw [Engine.asked, hrequests, List.append_nil]
    exact hasked
  · intro r hr
    rcases List.mem_append.1 hr with hold | hnew
    · obtain ⟨outcome', houtcome', hrecord'⟩ := hanswered r hold
      exact ⟨outcome', hkept _ _ houtcome', hrecord'⟩
    · obtain rfl := List.mem_singleton.1 hnew
      exact ⟨outcome, houtcome, hrecord⟩

/-- Every advance that does not lose the run keeps the ledger. -/
theorem advance (h : Ledger o e pauses readings) (hw : WorksFor e o)
    (hkept : ∀ id outcome, e.connection.outcome? id = some outcome →
      e'.connection.outcome? id = some outcome)
    (ha : Advance o.connection.lastRequest e e' found) (hlost : e'.point.stage ≠ .lost) :
    ∃ readings, Ledger o e' (pauses ++ found) readings := by
  -- Most advances lead from a stage in which nothing is read to another such stage.
  have hquiet {stage stage' : Stage} (hbefore : e.point.stage = stage)
      (hafter : e'.point.stage = stage')
      (hcandidates : e'.session.candidates? = e.session.candidates?)
      (htracked : e'.session.tracked = e.session.tracked) (hpauses : e'.pauses = e.pauses)
      (hvalues : e'.asked o.connection.lastRequest .evaluateOnCallFrame =
        e.asked o.connection.lastRequest .evaluateOnCallFrame)
      (hleft : stage'.left = stage.left) (hawaited : stage'.awaited = stage.awaited)
      (hbegun : stage'.begun = stage.begun) (hended : ∀ n, stage' = .ended n → n = e.pauses) :
      ∃ readings, Ledger o e' (pauses ++ []) readings := by
    rw [List.append_nil]
    subst hbefore hafter
    exact ⟨readings, h.of_same hcandidates htracked hpauses hvalues hkept hleft hawaited hbegun
      fun n hn => (hended n hn).trans hpauses.symm⟩
  cases ha with
  | lose hafter => exact absurd hafter hlost
  | stay hstage hsame hinquiries =>
    exact hquiet rfl hstage hsame.candidates hsame.tracked hsame.pauses hinquiries.values rfl rfl
      rfl h.ended
  | inquire hbefore hafter hsame hvalues _ =>
    exact hquiet hbefore hafter hsame.candidates hsame.tracked hsame.pauses hvalues rfl rfl rfl
      fun _ => Stage.noConfusion
  | install hbefore hafter _ _ hsame hinquiries =>
    exact hquiet hbefore hafter hsame.candidates hsame.tracked hsame.pauses hinquiries.values rfl
      rfl rfl fun _ => Stage.noConfusion
  | @reach first event hbefore hafter hsame hinquiries =>
    cases first <;>
      exact hquiet hbefore hafter hsame.candidates hsame.tracked hsame.pauses hinquiries.values rfl
        rfl rfl fun _ => Stage.noConfusion
  | skip hbefore _ _ hafter hsame hinquiries =>
    exact hquiet hbefore hafter hsame.candidates hsame.tracked hsame.pauses hinquiries.values rfl
      rfl rfl fun _ => Stage.noConfusion
  | take hbefore _ _ hafter hsame hinquiries =>
    exact hquiet hbefore hafter hsame.candidates hsame.tracked hsame.pauses hinquiries.values rfl
      rfl rfl fun _ => Stage.noConfusion
  | discover hbefore heq =>
    rw [heq]
    exact ⟨readings, h.discover hw hbefore⟩
  | @ask pause expression rest call hbefore hafter hsame hvalues _ =>
    obtain ⟨hcandidates, htracked, hrounds, hasked, hanswered, hcount, -⟩ := h
    rw [hbefore] at hrounds hasked hcount
    refine ⟨readings, hsame.candidates.trans ?_, ?_, ?_, ?_, fun r hr => ?_, ?_, fun n hn => ?_⟩
    · rw [hcandidates, List.append_nil]
    · rw [hsame.tracked, htracked, Session.candidates, Session.candidates, hsame.candidates]
    · rw [hafter, hsame.tracked, List.append_nil]
      exact hrounds
    · rw [hafter, hvalues, hasked, List.append_assoc]
      rfl
    · obtain ⟨outcome, houtcome, hrecord⟩ := hanswered r hr
      exact ⟨outcome, hkept _ _ houtcome, hrecord⟩
    · rw [hafter, hsame.pauses, List.append_nil]
      exact hcount
    · exact Stage.noConfusion (hafter.symm.trans hn)
  | record hbefore houtcome hrecord hrequests heq =>
    rw [List.append_nil]
    exact ⟨_, h.record hkept hbefore houtcome hrecord hrequests heq⟩
  | finish hbefore hafter hsame hinquiries =>
    have hended : ∀ n, Stage.ended e.pauses = .ended n → n = e.pauses :=
      fun n hn => (Stage.ended.inj hn).symm
    rcases hbefore with hready | hbetween
    · exact hquiet hready hafter hsame.candidates hsame.tracked hsame.pauses hinquiries.values rfl
        rfl rfl hended
    · exact hquiet hbetween hafter hsame.candidates hsame.tracked hsame.pauses hinquiries.values
        rfl rfl rfl hended

/-! ### What the ledger says in the end -/

/-- In rounds over the same expressions, each expression comes once in every round. -/
theorem filter_flatMap_topics {expressions : List String} (hnodup : expressions.Nodup)
    {expression : String} (hmem : expression ∈ expressions) (pauses : List Pause) :
    ((pauses.flatMap fun pause => expressions.map (pause, ·)).filter
      fun topic => topic.2 = expression).map Prod.fst = pauses := by
  have hround (pause : Pause) : ((expressions.map (pause, ·)).filter
      fun topic => topic.2 = expression).map Prod.fst = [pause] := by
    have hone : expressions.filter (fun other => other = expression) = [expression] := by
      rw [List.filter_eq, List.count_eq_one_of_mem hnodup hmem]
      rfl
    rw [List.filter_map, List.map_map]
    change (expressions.filter fun other => other = expression).map (fun _ => pause) = [pause]
    rw [hone, List.map_singleton]
  induction pauses with
  | nil => rfl
  | cons pause rest ih =>
    rw [List.flatMap_cons, List.filter_append, List.map_append, hround, ih]
    rfl

theorem expressions_eq (h : Ledger o e pauses readings) : e.session.tracked.expressions =
    (TrackedExpressions.ofCandidates e.session.candidates).expressions := by
  rw [h.tracked, TrackedExpressions.expressions_recordAll]

theorem nodup_expressions (h : Ledger o e pauses readings) :
    e.session.tracked.expressions.Nodup := by
  rw [h.expressions_eq]
  exact TrackedExpressions.nodup_expressions_ofCandidates _

/-- The history of a tracked expression is what has been read for it. -/
theorem history?_eq (h : Ledger o e pauses readings) {expression : String}
    (hmem : expression ∈ e.session.tracked.expressions) :
    e.session.tracked.history? expression =
      some ((readings.filter fun r => r.expression = expression).map Reading.value) := by
  rw [h.expressions_eq] at hmem
  rw [h.tracked, TrackedExpressions.history?_recordAll,
    TrackedExpressions.history?_ofCandidates hmem, Option.map_some, List.nil_append,
    List.filter_map, List.map_map]
  rfl

/-- When nothing is left to read, every tracked expression has been read once at every pause, and
its history is what was read. -/
theorem history (h : Ledger o e pauses readings) (hleft : e.point.stage.left = [])
    {expression : String} (hmem : expression ∈ e.session.tracked.expressions) :
    (readings.filter fun r => r.expression = expression).map Reading.pause = pauses ∧
      e.session.tracked.history? expression =
        some ((readings.filter fun r => r.expression = expression).map Reading.value) := by
  refine ⟨?_, h.history?_eq hmem⟩
  have hrounds := h.rounds
  rw [hleft, List.append_nil] at hrounds
  have hfilter := filter_flatMap_topics h.nodup_expressions hmem pauses
  rw [← hrounds, List.filter_map, List.map_map] at hfilter
  exact hfilter

/-- While an expression is evaluated, and is none of those that follow, its history has one value
for every pause that has been counted. -/
theorem exists_history (h : Ledger o e pauses readings) {pause : Pause} {expression : String}
    {rest : List String} {call : RequestId}
    (hstage : e.point.stage = .evaluating pause expression rest call)
    (hleft : expression :: rest <:+ e.session.tracked.expressions) :
    ∃ values, e.session.tracked.history? expression = some values ∧ values.length = e.pauses := by
  have hmem : expression ∈ e.session.tracked.expressions := hleft.subset List.mem_cons_self
  have hrest : expression ∉ rest :=
    (List.nodup_cons.1 (h.nodup_expressions.sublist hleft.sublist)).1
  refine ⟨_, h.history?_eq hmem, ?_⟩
  have hrounds := h.rounds
  have hcount := h.count
  rw [hstage] at hrounds hcount
  -- One reading of the expression at every pause, and the last of these is still to come.
  have hfilter := filter_flatMap_topics h.nodup_expressions hmem pauses
  have hlength := congrArg List.length hfilter
  have hother : (rest.map (pause, ·)).filter (fun topic => topic.2 = expression) = [] := by
    rw [List.filter_eq_nil_iff]
    intro topic htopic
    obtain ⟨other, hin, rfl⟩ := List.mem_map.1 htopic
    simp only [decide_eq_true_eq]
    rintro rfl
    exact hrest hin
  rw [← hrounds, List.length_map, List.filter_append, Stage.left, List.filter_cons_of_pos
    (by simp), hother, List.length_append, List.length_singleton, List.filter_map,
    List.length_map, hcount] at hlength
  rw [List.length_map]
  exact Nat.succ.inj hlength

end Ledger

/-- What is still to be read at the present pause comes last among the tracked expressions. -/
def InOrder (e : Engine) : Prop :=
  e.point.stage.left.map Prod.snd <:+ e.session.tracked.expressions

theorem snd_topics (pause : Pause) (expressions : List String) :
    (expressions.map (pause, ·)).map Prod.snd = expressions := by
  rw [List.map_map]
  exact List.map_id _

namespace InOrder

variable {e e' : Engine}

theorem of_nothing (h : e.point.stage.left = []) : InOrder e := by
  rw [InOrder, h]
  exact List.nil_suffix

theorem of_evaluating (h : InOrder e) {pause : Pause} {expression : String} {rest : List String}
    {call : RequestId} (hstage : e.point.stage = .evaluating pause expression rest call) :
    expression :: rest <:+ e.session.tracked.expressions := by
  rw [InOrder, hstage] at h
  rw [← snd_topics pause (expression :: rest)]
  exact h

theorem evaluateNext (pause : Pause) {expressions : List String}
    (h : expressions <:+ e.session.tracked.expressions) :
    InOrder (e.evaluateNext pause expressions) := by
  cases expressions with
  | nil => exact .of_nothing rfl
  | cons expression rest =>
    change ((expression :: rest).map (pause, ·)).map Prod.snd <:+ e.session.tracked.expressions
    rw [snd_topics]
    exact h

/-- The expressions are read in order. -/
theorem advance {since : RequestId} {found : List Pause} (h : InOrder e)
    (ha : Advance since e e' found) : InOrder e' := by
  cases ha with
  | lose hafter => exact .of_nothing (by rw [hafter]; rfl)
  | stay hstage hsame _ =>
    rw [InOrder, hstage, hsame.tracked]
    exact h
  | inquire _ hafter _ _ _ => exact .of_nothing (by rw [hafter]; rfl)
  | install _ hafter _ _ _ _ => exact .of_nothing (by rw [hafter]; rfl)
  | reach _ hafter _ _ => exact .of_nothing (by rw [hafter]; rfl)
  | skip _ _ _ hafter _ _ => exact .of_nothing (by rw [hafter]; rfl)
  | take _ _ _ hafter _ _ => exact .of_nothing (by rw [hafter]; rfl)
  | finish _ hafter _ _ => exact .of_nothing (by rw [hafter]; rfl)
  | discover _ heq =>
    rw [heq]
    exact .evaluateNext _ List.suffix_rfl
  | ask hbefore hafter hsame _ _ =>
    rw [InOrder, hbefore] at h
    rw [InOrder, hafter, hsame.tracked]
    exact h
  | @record pause expression rest call connection outcome value hbefore _ _ _ heq =>
    rw [heq]
    refine .evaluateNext _ ?_
    change rest <:+ (e.session.tracked.record expression value).1.expressions
    rw [TrackedExpressions.expressions_record]
    exact (List.suffix_cons expression rest).trans (h.of_evaluating hbefore)

end InOrder

/-- The expressions are read in order throughout a run. -/
theorem Outset.inOrder_run (o : Outset) (events : List Event) : InOrder (o.run events) := by
  refine o.run_induction (P := InOrder) events (.of_nothing rfl) (fun _ _ _ h => h)
    (fun _ _ h => h) fun e e' ha h hmove => ?_
  obtain ⟨found, hadvance⟩ := hmove.advance ha (Nat.zero_le _)
  exact h.advance hadvance

end ValueTrace.Stepping
