import ValueTrace.Proofs.Stepping.Serial

/-!
# The script of a run

What the engine writes follows a script: first the five requests of the configuration, and then a
line for every pause it has read, which is an evaluation of every tracked expression on the top
frame, unless the pause is skipped, and a resume.  The script gives the requests as they stand on
the wire.  At every moment all lines but the last have been written, and of the last line a part,
and every move keeps it so (`Recital.move`).

## Main definitions

* `Content` : what a request says, whatever its number.
* `Outset.lines` : the script, given the pauses that were read.
* `Recites` : what has been written of the script, and what is left of the present line.
* `Recital` : what is left is what the engine is about to write.

## Main results

* `Recital.move` : every move follows the script.
-/

namespace ValueTrace

open Inspector
open Json (Value)

/-- What a request says, whatever its number: a method and its parameters. -/
abbrev Content := String × Option Value

/-- What a request says. -/
def Inspector.Request.content (q : Request) : Content := (q.method, q.params)

namespace Stepping

/-! ### The script -/

/-- The evaluation of an expression on a call frame, silent and without side effects. -/
def evaluation (callFrameId expression : String) : Content :=
  ("Debugger.evaluateOnCallFrame",
    some (.object [("callFrameId", .string callFrameId), ("expression", .string expression),
      ("throwOnSideEffect", .bool true), ("silent", .bool true)]))

/-- Letting the debuggee run on. -/
def resumption : Content := ("Debugger.resume", none)

/-- The line for a pause at which some expressions are evaluated, on the top frame.  There is none
for a pause without a frame. -/
def lineFor (expressions : List String) (halt : PausedEvent) : List Content :=
  match halt.callFrames with
  | top :: _ => expressions.map (evaluation top.id) ++ [resumption]
  | [] => []

/-- The line for a pause that was taken. -/
theorem lineFor_of_ofEvent? {halt : PausedEvent} {pause : Pause}
    (h : Pause.ofEvent? halt = .ok pause) (expressions : List String) :
    lineFor expressions halt = expressions.map (evaluation pause.callFrameId) ++ [resumption] := by
  rw [Pause.ofEvent?] at h
  split at h
  · rename_i top others hframes
    rw [lineFor, hframes, ← Except.ok.inj h]
  · cases h

namespace Outset

variable (o : Outset)

/-- The first line: the configuration, with the breakpoint in the first column, and letting the
debuggee run. -/
def opening : List Content :=
  [("Debugger.enable", none), ("Runtime.enable", none),
    ("Debugger.setPauseOnExceptions",
      some (.object [("state", .string o.settings.pauseOnExceptions.name)])),
    ("Debugger.setBreakpointByUrl",
      some (.object [("lineNumber", .ofNat o.line.toNat), ("url", .string o.target.url),
        ("columnNumber", .ofNat 0)])),
    ("Runtime.runIfWaitingForDebugger", none)]

/-- The expressions evaluated at the pauses that count: the texts of the candidates at the first of
them, without repetition. -/
def expressions (counted : List PausedEvent) : List String :=
  match counted.head?.map Pause.ofEvent? with
  | some (.ok pause) =>
    ((o.program.candidates pause.scopeStart o.line).map Candidate.expression).eraseDups
  | _ => []

/-- The lines for the pauses that were read.  At the first one nothing is evaluated if it is
skipped. -/
def rounds (breakpointId : Option String) : List PausedEvent → List (List Content)
  | [] => []
  | first :: rest =>
    if o.settings.skipEntryPause && !breakpointId.any first.hitBreakpoints.contains then
      lineFor [] first :: rest.map (lineFor (o.expressions rest))
    else (first :: rest).map (lineFor (o.expressions (first :: rest)))

/-- The script, given the pauses that were read. -/
def lines (breakpointId : Option String) (halts : List PausedEvent) : List (List Content) :=
  o.opening :: o.rounds breakpointId halts

variable {o}

/-- The expressions are those of the first pause that counts. -/
theorem expressions_concat {counted : List PausedEvent} (h : counted ≠ []) (event : PausedEvent) :
    o.expressions (counted ++ [event]) = o.expressions counted := by
  cases counted with
  | nil => exact absurd rfl h
  | cons first rest => rfl

/-- A pause adds a line to the script. -/
theorem exists_lines_concat (breakpointId : Option String) (halts : List PausedEvent)
    (event : PausedEvent) :
    ∃ line, o.lines breakpointId (halts ++ [event]) = o.lines breakpointId halts ++ [line] := by
  have hlines (past : List PausedEvent) :
      ∃ line, (past ++ [event]).map (lineFor (o.expressions (past ++ [event]))) =
        past.map (lineFor (o.expressions past)) ++ [line] := by
    by_cases hpast : past = []
    · subst hpast
      exact ⟨_, rfl⟩
    · rw [expressions_concat hpast, List.map_append]
      exact ⟨_, rfl⟩
  cases halts with
  | nil =>
    simp only [List.nil_append, lines, rounds]
    split
    · exact ⟨_, rfl⟩
    · exact ⟨_, rfl⟩
  | cons first rest =>
    simp only [List.cons_append, lines, rounds]
    split
    · obtain ⟨line, hline⟩ := hlines rest
      exact ⟨line, by rw [hline]; rfl⟩
    · obtain ⟨line, hline⟩ := hlines (first :: rest)
      exact ⟨line, by rw [← List.cons_append, hline]⟩

/-- The line for the latest pause is the last one.  Unless that pause counts, there are no
expressions. -/
theorem getLast?_lines (breakpointId : Option String) {halts : List PausedEvent}
    {halt : PausedEvent} (h : halts.getLast? = some halt) :
    (o.lines breakpointId halts).getLast? =
      some (lineFor (o.expressions (evaluatedHalts o.settings breakpointId halts)) halt) := by
  have hround : (o.rounds breakpointId halts).getLast? =
      some (lineFor (o.expressions (evaluatedHalts o.settings breakpointId halts)) halt) := by
    cases halts with
    | nil => exact absurd h (by simp)
    | cons first rest =>
      rw [rounds, evaluatedHalts]
      split
      · cases rest with
        | nil =>
          obtain rfl := Option.some.inj h
          rfl
        | cons second others =>
          rw [List.getLast?_cons_cons] at h
          rw [List.map_cons, List.getLast?_cons_cons, ← List.map_cons, List.getLast?_map, h]
          rfl
      · rw [List.getLast?_map, h]
        rfl
  rw [lines, List.getLast?_cons, hround]
  rfl

end Outset

/-! ### How far the script has been said -/

variable {o : Outset} {e e' : Engine} {said left : List Content}

/-- What the engine has written. -/
def Engine.contents (e : Engine) : List Content := e.connection.written.map Request.content

/-- All lines of the script but the last have been written, and of the last one some part, but not
what is left. -/
def Recites (o : Outset) (e : Engine) (said left : List Content) : Prop :=
  ∃ passed, o.lines e.breakpointId e.halts = passed ++ [said ++ left] ∧
    e.contents = passed.flatten ++ said

namespace Recites

/-- While nothing is written and no pause is read, the place in the script is the same. -/
theorem of_same (h : Recites o e said left)
    (hwritten : e'.connection.written = e.connection.written) (hhalts : e'.halts = e.halts)
    (hid : e'.breakpointId = e.breakpointId) : Recites o e' said left := by
  obtain ⟨passed, hlines, hcontents⟩ := h
  refine ⟨passed, ?_, ?_⟩
  · rw [hhalts, hid, hlines]
  · rw [Engine.contents, hwritten, ← Engine.contents, hcontents]

/-- What is written next belongs to what has been said of the present line. -/
theorem say {content : Content} (h : Recites o e said (content :: left))
    (hcontents : e'.contents = e.contents ++ [content]) (hhalts : e'.halts = e.halts)
    (hid : e'.breakpointId = e.breakpointId) : Recites o e' (said ++ [content]) left := by
  obtain ⟨passed, hlines, hbefore⟩ := h
  refine ⟨passed, ?_, ?_⟩
  · rw [hhalts, hid, hlines, List.append_assoc, List.singleton_append]
  · rw [hcontents, hbefore, List.append_assoc]

/-- When a pause is read after the present line, its own line comes next. -/
theorem read {event : PausedEvent} (h : Recites o e said [])
    (hwritten : e'.connection.written = e.connection.written)
    (hhalts : e'.halts = e.halts ++ [event]) (hid : e'.breakpointId = e.breakpointId) :
    ∃ line, Recites o e' [] line := by
  obtain ⟨passed, hlines, hcontents⟩ := h
  obtain ⟨line, hline⟩ := Outset.exists_lines_concat (o := o) e.breakpointId e.halts event
  refine ⟨line, passed ++ [said], ?_, ?_⟩
  · rw [hhalts, hid, hline, hlines, List.append_nil, List.nil_append]
  · rw [Engine.contents, hwritten, ← Engine.contents, hcontents, List.flatten_append,
      List.append_nil]
    simp

/-- The present line is the last one. -/
theorem getLast?_lines (h : Recites o e said left) :
    (o.lines e.breakpointId e.halts).getLast? = some (said ++ left) := by
  obtain ⟨passed, hlines, -⟩ := h
  rw [hlines, List.getLast?_concat]

/-- What has been written is a part of the script, and all lines but the last are a part of it. -/
theorem between (h : Recites o e said left) :
    (o.lines e.breakpointId e.halts).dropLast.flatten <+: e.contents ∧
      e.contents <+: (o.lines e.breakpointId e.halts).flatten := by
  obtain ⟨passed, hlines, hcontents⟩ := h
  rw [hlines, hcontents, List.dropLast_concat, List.flatten_append, List.flatten_singleton]
  exact ⟨List.prefix_append _ _, List.prefix_append_right_inj _ |>.2 (List.prefix_append _ _)⟩

end Recites

/-! ### What is left of the present line -/

/-- What a request says. -/
def Outset.content (o : Outset) (errand : Errand) : Content :=
  (errand.method.name, o.engine.params errand)

/-- The engine makes its requests for what its run started from. -/
theorem WorksFor.params (h : WorksFor e o) (errand : Errand) :
    e.params errand = o.engine.params errand := by
  cases errand with
  | setPauseOnExceptions => simp only [Engine.params, h.settings]; rfl
  | setBreakpoint => simp only [Engine.params, h.breakpoint]; rfl
  | _ => rfl

/-- What is left of the present line after a request. -/
def Errand.sequel (o : Outset) : Errand → List Content
  | .enableDebugger _ => o.opening.drop 1
  | .enableRuntime _ => o.opening.drop 2
  | .setPauseOnExceptions => o.opening.drop 3
  | .setBreakpoint => o.opening.drop 4
  | .release _ => []
  | .evaluate pause _ rest => rest.map (evaluation pause.callFrameId) ++ [resumption]
  | .resume .. => []

/-- What is left of the present line at a point, unless the run has failed.  A request that is
refused because the connection is closed is left as well. -/
def Point.Leaves (o : Outset) (isRefused : RequestId → Prop) (said left : List Content) :
    Point → Prop
  | .observing _ | .expectingContext => left = o.opening
  | .asking errand => left = o.content errand :: errand.sequel o
  | .awaitingReply errand call =>
    left = errand.sequel o ∨ (left = o.content errand :: errand.sequel o ∧ isRefused call)
  | .readingContext _ | .releasingContext _ => left = o.opening.drop 2
  | .configured | .expectingFirstPause | .expectingFirstEnd _ => left = o.opening.drop 4
  | .releasingEvent .. | .halted .. | .discovering _ => said = []
  | .resuming | .expectingResumed | .expectingPause _ | .expectingEnd .. => left = [resumption]
  | .awaitingEvent .. | .awaitingResumed .. | .releasingResumed .. | .resumed _ => left = []
  | .unwinding (.ok _) | .finished (.ok _) => left = []
  | .unwinding (.error _) | .finished (.error _) | .unstarted | .abandoned => True

/-- What is left stays so while what was refused stays so. -/
theorem Point.Leaves.mono {isRefused isRefused' : RequestId → Prop} {p : Point}
    (h : p.Leaves o isRefused said left) (hrefused : ∀ call, isRefused call → isRefused' call) :
    p.Leaves o isRefused' said left := by
  cases p with
  | awaitingReply errand call =>
    exact h.imp_right fun hclosed => ⟨hclosed.1, hrefused call hclosed.2⟩
  | unwinding outcome | finished outcome => cases outcome <;> exact h
  | _ => exact h

/-- A request has found the connection closed. -/
def Engine.Refused (e : Engine) (call : RequestId) : Prop :=
  e.connection.outcome? call = some (.error .closed)

/-- What the engine leaves of the present line. -/
def Engine.Leaves (o : Outset) (e : Engine) (said left : List Content) : Prop :=
  e.point.Leaves o e.Refused said left

/-- Where the engine is in its script. -/
def Recital (o : Outset) (e : Engine) : Prop :=
  ∃ said left, Recites o e said left ∧ e.Leaves o said left

/-- While the breakpoint is being installed, no pause has been read. -/
theorem Chronicle.halts_eq_nil (h : Chronicle o e) {call : RequestId}
    (hstage : e.point.stage = .installing call) : e.halts = [] := by
  rcases h.readings with hlost | ⟨pauses, readings, hjudged, -⟩
  · exact Stage.noConfusion (hstage.symm.trans hlost)
  · rw [Judged, hstage] at hjudged
    exact hjudged.1

/-- When the first pause is skipped, its line is only to resume. -/
theorem Recites.left_of_skips (h : Recites o e [] left) (hc : Chronicle o e) {first : Bool}
    {event : PausedEvent} {pause : Pause} (hstage : e.point.stage = .reached first event)
    (hpause : Pause.ofEvent? event = .ok pause) (hskip : e.skips first pause = true) :
    left = [resumption] := by
  have hjudged : ∃ past, e.halts = past ++ [event] ∧ (first = true ↔ past = []) := by
    rcases hc.readings with hlost | ⟨pauses, readings, hjudged, -⟩
    · exact Stage.noConfusion (hstage.symm.trans hlost)
    · rw [Judged, hstage] at hjudged
      obtain ⟨past, hhalts, hfirst, -⟩ := hjudged
      exact ⟨past, hhalts, hfirst⟩
  obtain ⟨past, hhalts, hfirst⟩ := hjudged
  simp only [Engine.skips, Bool.and_eq_true, and_assoc] at hskip
  obtain rfl := hfirst.1 hskip.1
  have hnone : evaluatedHalts o.settings e.breakpointId e.halts = [] := by
    rw [hhalts, ← hc.worksFor.settings, List.nil_append, evaluatedHalts]
    refine if_pos ?_
    rw [← hits_of_ofEvent? hpause, Bool.and_eq_true]
    exact hskip.2
  have hhalt : e.halts.getLast? = some event := by rw [hhalts]; rfl
  have hlast := h.getLast?_lines
  rw [o.getLast?_lines e.breakpointId hhalt, hnone, lineFor_of_ofEvent? hpause] at hlast
  exact (Option.some.inj hlast).symm

/-- The first pause that counts is the first one that was taken. -/
theorem Stage.Judges.head? {stage : Stage} {settings : EngineSettings}
    {breakpointId : Option String} {halts : List PausedEvent} {first : Pause} {rest : List Pause}
    (h : stage.Judges settings breakpointId halts (first :: rest)) (hstage : stage ≠ .lost) :
    (evaluatedHalts settings breakpointId halts).head?.map Pause.ofEvent? = some (.ok first) := by
  have hhead {halts : List PausedEvent} {taken : List Pause}
      (htakes : Takes settings breakpointId halts (first :: taken)) :
      (evaluatedHalts settings breakpointId halts).head?.map Pause.ofEvent? =
        some (.ok first) := by
    rw [← List.head?_map, htakes]
    rfl
  cases stage with
  | lost => exact absurd rfl hstage
  | setup | installing call | ready => exact absurd h.2 (List.cons_ne_nil _ _)
  | reached initial event =>
    obtain ⟨past, rfl, -, htakes⟩ := h
    have hpast : past ≠ [] := by
      rintro rfl
      exact List.cons_ne_nil _ _ htakes.eq_nil
    have hcounted := hhead htakes
    rw [evaluatedHalts_concat hpast]
    cases hevaluated : evaluatedHalts settings breakpointId past with
    | nil => simp [hevaluated] at hcounted
    | cons halt others =>
      rw [hevaluated] at hcounted
      exact hcounted
  | discovering pause => exact hhead h.2
  | asking pause expression rest | evaluating pause expression rest call | between =>
    exact hhead h.2
  | ended n => exact hhead h

/-- Once candidates have been looked for, and unless the run has failed, the tracked expressions are
those that the script names. -/
theorem Chronicle.expressions_eq (h : Chronicle o e) (hstage : e.point.stage ≠ .lost)
    (hdiscovered : e.session.isDiscovered = true) :
    e.session.tracked.expressions =
      o.expressions (evaluatedHalts o.settings e.breakpointId e.halts) := by
  rcases h.readings with hlost | ⟨pauses, readings, hjudged, hledger⟩
  · exact absurd hlost hstage
  cases pauses with
  | nil => simp [Session.isDiscovered, hledger.candidates] at hdiscovered
  | cons first rest =>
    have hcandidates : e.session.candidates =
        o.program.candidates first.scopeStart o.line := by
      rw [Session.candidates, hledger.candidates]
      rfl
    rw [hledger.tracked, TrackedExpressions.expressions_recordAll,
      TrackedExpressions.expressions_ofCandidates, hcandidates, Outset.expressions,
      Stage.Judges.head? hjudged hstage]

/-- At a pause that counts, what is left is an evaluation of every tracked expression, and to
resume. -/
theorem Recites.left_of_discovering (h : Recites o e [] left) (hc : Chronicle o e) {pause : Pause}
    (hp : e.point = .discovering pause) :
    left = (o.expressions (evaluatedHalts o.settings e.breakpointId e.halts)).map
      (evaluation pause.callFrameId) ++ [resumption] := by
  have hjudged : ∃ pauses, e.halts ≠ [] ∧
      Takes o.settings e.breakpointId e.halts (pauses ++ [pause]) := by
    rcases hc.readings with hlost | ⟨pauses, readings, hjudged, -⟩
    · rw [hp] at hlost
      exact Stage.noConfusion hlost
    · rw [Judged, hp] at hjudged
      exact ⟨pauses, hjudged⟩
  obtain ⟨pauses, hhalts, htakes⟩ := hjudged
  obtain ⟨halt, hhalt⟩ := Option.isSome_iff_exists.1 (List.getLast?_isSome.2 hhalts)
  have hpause : Pause.ofEvent? halt = .ok pause := by
    have hlast := congrArg List.getLast? htakes
    have hcounted : evaluatedHalts o.settings e.breakpointId e.halts ≠ [] := by
      intro hnil
      rw [Takes, hnil] at htakes
      simp at htakes
    rw [List.getLast?_map, getLast?_evaluatedHalts hcounted, hhalt, List.map_append,
      List.map_singleton, List.getLast?_concat] at hlast
    exact Option.some.inj hlast
  have hlast := h.getLast?_lines
  rw [o.getLast?_lines e.breakpointId hhalt, lineFor_of_ofEvent? hpause] at hlast
  exact (Option.some.inj hlast).symm

/-! ### Every move follows the script -/

/-- A request whose outcome does not say that the connection is closed has been written. -/
theorem Answered.left_eq {errand : Errand} {call : RequestId} {connection : Connection}
    {outcome : Except TransportError Value} (h : Answered e errand call connection outcome)
    (ha : e.Accounted) (hne : outcome ≠ .error .closed) {sequel whole : List Content}
    (hleft : left = sequel ∨
      (left = whole ∧ e.connection.outcome? call = some (.error .closed))) : left = sequel := by
  obtain ⟨reply, haccounts⟩ := ha
  rcases hleft with hleft | ⟨-, hclosed⟩
  · exact hleft
  · have hkept : connection.outcome? call = some (.error .closed) := by
      rcases h.came with rfl | rfl
      · exact haccounts.outcome?_apply (.readAnswer call) hclosed
      · exact haccounts.outcome?_apply (.expire call) hclosed
    exact absurd (Option.some.inj (h.outcome.symm.trans hkept)) hne

/-- What is left when the engine goes on with the expressions at a pause. -/
theorem Engine.leaves_evaluateNext (o : Outset) (e : Engine) (pause : Pause)
    (expressions : List String) : (e.evaluateNext pause expressions).Leaves o said
      (expressions.map (evaluation pause.callFrameId) ++ [resumption]) := by
  cases expressions <;> rfl

theorem Engine.isDiscovered_discover (e : Engine) (pause : Pause) :
    (e.discover pause).session.isDiscovered = true := by
  rw [discover]
  split
  · assumption
  · rfl

namespace Recital

/-- A request is the next word of the present line.  On a closed connection it is not written. -/
theorem ask (h : Recital o e) (hc : Chronicle o e) (ha : e.Accounted) {errand : Errand}
    (hp : e.point = .asking errand) : Recital o (e.ask errand) := by
  obtain ⟨said, left, hrecites, hleaves⟩ := h
  rw [Engine.Leaves, hp] at hleaves
  subst hleaves
  obtain ⟨reply, haccounts⟩ := ha
  cases hclosed : e.connection.isClosed with
  | true =>
    obtain ⟨hcalls, hwritten⟩ :=
      haccounts.send_closed hclosed errand.method.name (e.params errand)
    refine ⟨said, _, hrecites.of_same hwritten rfl rfl, Or.inr ⟨rfl, ?_⟩⟩
    obtain ⟨⟨reply', haccounts'⟩, -, -⟩ := (Move.ask hp).keeps ⟨reply, haccounts⟩
    have hfound := haccounts'.call?_last hcalls
    change ((e.ask errand).connection.call? _).bind Call.outcome? = _
    rw [Connection.sentCall, if_pos hclosed] at hfound
    exact congrArg (Option.bind · Call.outcome?) hfound
  | false =>
    have hwritten : (e.ask errand).connection.written = e.connection.written ++ [_] :=
      (haccounts.send_open hclosed errand.method.name (e.params errand)).2
    refine ⟨_, _, hrecites.say ?_ rfl rfl, Or.inl rfl⟩
    rw [Engine.contents, hwritten, List.map_append, List.map_singleton, Outset.content,
      ← hc.worksFor.params]
    rfl

variable (h : Recital o e) (hwritten : e'.connection.written = e.connection.written)
include h hwritten

/-- A move that says nothing and reads no pause goes on if the same of the present line is left. -/
theorem stay {p p' : Point} (hp : e.point = p) (hp' : e'.point = p') (hhalts : e'.halts = e.halts)
    (hid : e'.breakpointId = e.breakpointId)
    (hkeeps : ∀ said left, p.Leaves o e.Refused said left → p'.Leaves o e'.Refused said left) :
    Recital o e' := by
  obtain ⟨said, left, hrecites, hleaves⟩ := h
  refine ⟨said, left, hrecites.of_same hwritten hhalts hid, ?_⟩
  rw [Engine.Leaves, hp] at hleaves
  rw [Engine.Leaves, hp']
  exact hkeeps said left hleaves

/-- With the outcome of a request, the engine goes on with what comes after it. -/
theorem proceed (ha : e.Accounted) {errand : Errand} {call : RequestId} {connection : Connection}
    {outcome : Except TransportError Value} (hanswered : Answered e errand call connection outcome)
    (hne : outcome ≠ .error .closed) (hhalts : e'.halts = e.halts)
    (hid : e'.breakpointId = e.breakpointId)
    (hleaves : ∀ said, e'.Leaves o said (errand.sequel o)) : Recital o e' := by
  refine h.stay hwritten hanswered.point rfl hhalts hid fun said left hleft => ?_
  rw [hanswered.left_eq ha hne hleft]
  exact hleaves said

/-- When the breakpoint is installed, no pause has been read, so the script does not depend on its
number yet. -/
theorem install (ha : e.Accounted) (hc : Chronicle o e) {call : RequestId}
    {connection : Connection} {result : Value}
    (hanswered : Answered e .setBreakpoint call connection (.ok result))
    (hp' : e'.point = .configured) (hhalts : e'.halts = e.halts) : Recital o e' := by
  obtain ⟨said, left, ⟨passed, hlines, hcontents⟩, hleaves⟩ := h
  rw [Engine.Leaves, hanswered.point] at hleaves
  have hleft : left = Errand.setBreakpoint.sequel o := hanswered.left_eq ha (by simp) hleaves
  have hnone : e.halts = [] := hc.halts_eq_nil (by rw [hanswered.point]; rfl)
  refine ⟨said, left, ⟨passed, ?_, ?_⟩, ?_⟩
  · rw [hnone] at hlines
    rw [hhalts, hnone]
    exact hlines
  · rw [Engine.contents, hwritten]
    exact hcontents
  · rw [Engine.Leaves, hp']
    exact hleft

/-- When a pause is read, its line comes next, and nothing of it has been said. -/
theorem read {first : Bool} {next : EventWaiters} {event : PausedEvent}
    (hp : e.point = .awaitingEvent first next) (hleaves : ∀ left, e'.Leaves o [] left)
    (hhalts : e'.halts = e.halts ++ [event]) (hid : e'.breakpointId = e.breakpointId) :
    Recital o e' := by
  obtain ⟨said, left, hrecites, hleft⟩ := h
  rw [Engine.Leaves, hp] at hleft
  obtain rfl : left = [] := hleft
  obtain ⟨line, hline⟩ := hrecites.read hwritten hhalts hid
  exact ⟨[], line, hline, hleaves line⟩

/-- When a pause is skipped, its line is only to resume. -/
theorem skip (hc : Chronicle o e) {first : Bool} {event : PausedEvent} {pause : Pause}
    (hp : e.point = .halted first event) (hpause : Pause.ofEvent? event = .ok pause)
    (hskip : e.skips first pause = true) (hp' : e'.point = .resuming)
    (hhalts : e'.halts = e.halts) (hid : e'.breakpointId = e.breakpointId) : Recital o e' := by
  obtain ⟨said, left, hrecites, hsaid⟩ := h
  rw [Engine.Leaves, hp] at hsaid
  obtain rfl : said = [] := hsaid
  refine ⟨[], left, hrecites.of_same hwritten hhalts hid, ?_⟩
  rw [Engine.Leaves, hp']
  exact hrecites.left_of_skips hc (by rw [hp]; rfl) hpause hskip

/-- At a pause that counts, the engine goes on with the expressions of its line. -/
theorem discover (hc : Chronicle o e) (hc' : Chronicle o e') {pause : Pause}
    (hp : e.point = .discovering pause)
    (he' : e' = (e.discover pause).evaluateNext pause
      (e.discover pause).session.tracked.expressions) : Recital o e' := by
  obtain ⟨said, left, hrecites, hsaid⟩ := h
  rw [Engine.Leaves, hp] at hsaid
  obtain rfl : said = [] := hsaid
  have hhalts : e'.halts = e.halts := by simp [he']
  have hid : e'.breakpointId = e.breakpointId := by simp [he']
  have hopen : e'.point.stage ≠ .lost := by
    rw [he', stage_evaluateNext]
    split <;> exact Stage.noConfusion
  have hexpressions : (e.discover pause).session.tracked.expressions =
      o.expressions (evaluatedHalts o.settings e.breakpointId e.halts) := by
    have htracked := hc'.expressions_eq hopen (by simp [he', e.isDiscovered_discover])
    rw [hhalts, hid] at htracked
    rwa [he', Engine.evaluateNext_session] at htracked
  refine ⟨[], left, hrecites.of_same hwritten hhalts hid, ?_⟩
  rw [hrecites.left_of_discovering hc hp, ← hexpressions, he']
  exact Engine.leaves_evaluateNext _ _ _ _

omit hwritten in
/-- Every move follows the script. -/
theorem move (ha : e.Accounted) (hc : Chronicle o e) (hc' : Chronicle o e') (hmove : Move e e') :
    Recital o e' := by
  cases hasking : e.point.isAsking with
  | true =>
    obtain ⟨errand, hp⟩ := Point.exists_of_isAsking hasking
    rw [hmove.eq_ask hp]
    exact h.ask hc ha hp
  | false =>
    have hwritten := (hmove.requests hasking).2
    cases hmove with
    | ask hp =>
      rw [hp] at hasking
      exact Bool.noConfusion hasking
    -- What is left of the line depends only on the point, and these moves keep it.
    | observe hp | halt hp => exact h.stay hwritten hp rfl rfl rfl fun _ _ => id
    | noteNothing hp _ | acknowledge hp _ => exact h.stay hwritten hp rfl rfl rfl fun _ _ => id
    | note hp _ =>
      obtain ⟨session, heq⟩ := e.noteContext_eq _
      rw [heq] at hwritten ⊢
      exact h.stay hwritten hp rfl rfl rfl fun _ _ => id
    | enter hentry _ =>
      cases hentry with
      | configuring hp | waitingForInitialPause hp | resuming hp | waitingForPause hp =>
        exact h.stay hwritten hp rfl rfl rfl fun _ _ => id
      | evaluating hp _ _ | terminated hp _ => exact h.stay hwritten hp rfl rfl rfl fun _ _ => id
    | expect hw =>
      cases hw with
      | context hp | firstPause hp | firstEnd hp | resumed hp | pause hp | nextEnd hp =>
        exact h.stay hwritten hp rfl rfl rfl fun _ _ => id
    | giveBack hr =>
      cases hr with
      | context hp | event hp | resumed hp => exact h.stay hwritten hp rfl rfl rfl fun _ _ => id
    | releaseWaiter hp _ | releaseObserver hp _ _ =>
      exact h.stay hwritten hp hp rfl rfl fun _ _ => id
    | @conclude outcome hp _ _ =>
      cases outcome <;> exact h.stay hwritten hp rfl rfl rfl fun _ _ => id
    -- After a failure nothing is left to be said.
    | refuse _ _ | fail _ => exact h.stay hwritten rfl rfl rfl rfl fun _ _ _ => trivial
    | @proceed errand call connection result point hanswered hnext =>
      refine h.proceed hwritten ha hanswered (by simp) rfl rfl fun said => ?_
      cases errand <;> simp only [Errand.next?, Option.some.injEq, reduceCtorEq] at hnext
      all_goals
        subst hnext
        rfl
    | install hanswered _ => exact h.install hwritten ha hc hanswered rfl rfl
    | @record pause expression rest call connection outcome value hanswered hrecord =>
      refine h.proceed hwritten ha hanswered (fun hclosed => ?_) (by simp) (by simp) fun said =>
        Engine.leaves_evaluateNext _ _ _ _
      simp [hclosed, evaluationRecord, Except.bind] at hrecord
    | @pause first next event hp _ =>
      refine h.read hwritten hp (fun left => ?_) rfl rfl
      cases first <;> rfl
    | skip hp hpause hskip => exact h.skip hwritten hc hp hpause hskip rfl rfl rfl
    | discover hp => exact h.discover hwritten hc hc' hp rfl

end Recital

end Stepping

end ValueTrace
