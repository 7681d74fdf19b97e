import ValueTrace.Proofs.Stepping.Script

/-!
# What is written in a run

On a connection that was just made, the engine writes its script and nothing else, one request after
the answer to the other (`requests_follow_script`).  Between two pauses it writes the line for the
first of them, so every evaluation is one on the top frame of the latest pause, from which the
debuggee has not been resumed (`Outset.evaluations_at_latest_halt`).

## Main definitions

* `Tracks` : the tracked expressions are those that the script names.

## Main results

* `requests_follow_script` : the requests of every run.
-/

namespace ValueTrace.Stepping

open Inspector
open Json (Value)

variable {o : Outset} {e e' : Engine}

/-! ### Runs that are under way -/

/-- What holds at some moment of a run, and is preserved by every frame, by the end of the
connection and by every move from one chronicle to the next, holds from then on. -/
theorem Outset.run_induction_from (o : Outset) {P : Engine → Prop} (earlier later : List Event)
    (hstart : P (o.run earlier))
    (hframe : ∀ e text, e.Accounted → P e → P { e with connection := e.connection.receive text })
    (hhangUp : ∀ e, e.Accounted → P e → P { e with connection := e.connection.hangUp })
    (hmove : ∀ e e', e.Accounted → Chronicle o e → Chronicle o e' → P e → Move e e' → P e') :
    P (o.run (earlier ++ later)) := by
  suffices hboth : Chronicle o ((o.run earlier).run later) ∧ P ((o.run earlier).run later) by
    rw [Outset.run_append]
    exact hboth.2
  obtain ⟨reply, haccounts, -⟩ := o.exists_accounts_run earlier
  refine Engine.Accounted.run_induction (P := fun e => Chronicle o e ∧ P e) ⟨reply, haccounts⟩
    later ⟨o.chronicle_run earlier, hstart⟩ (fun e text ha h => ?_) (fun e ha h => ?_)
    fun e e' ha h hmoved => ?_
  · exact ⟨h.1.operation ha (.receive text) rfl, hframe e text ha h.2⟩
  · exact ⟨h.1.operation ha .hangUp rfl, hhangUp e ha h.2⟩
  · have hc' := h.1.move ha hmoved
    exact ⟨hc', hmove e e' ha h.1 hc' h.2 hmoved⟩

/-- What the other side does to the connection leaves the place in the script as it is. -/
theorem Recital.operation (h : Recital o e) (ha : e.Accounted) (operation : Connection.Operation)
    (hquiet : operation.asks = false) :
    Recital o { e with connection := e.connection.apply operation } := by
  obtain ⟨said, left, hrecites, hleaves⟩ := h
  obtain ⟨reply, haccounts⟩ := ha
  exact ⟨said, left,
    hrecites.of_same (e.connection.requests_apply operation hquiet).2 rfl rfl,
    hleaves.mono fun _ hclosed => haccounts.outcome?_apply operation hclosed⟩

/-- Throughout a run on a connection that was just made, the engine follows its script. -/
theorem Outset.recital_run (o : Outset) (events : List Event) :
    Recital o.fresh (o.fresh.run events) :=
  o.fresh.run_induction_from [] events ⟨[], o.fresh.opening, ⟨[], rfl, rfl⟩, rfl⟩
    (fun _ text ha h => h.operation ha (.receive text) rfl)
    (fun _ ha h => h.operation ha .hangUp rfl)
    fun _ _ ha hc hc' h hmove => h.move ha hc hc' hmove

/-! ### The tracked expressions -/

/-- Once candidates have been looked for, the tracked expressions are those that the script
names. -/
def Tracks (o : Outset) (e : Engine) : Prop :=
  e.session.isDiscovered = true → e.session.tracked.expressions =
    o.expressions (evaluatedHalts o.settings e.breakpointId e.halts)

/-- A run that fails, or has failed, reads no pause, and its session stays or forgets what it
has. -/
theorem Move.of_lost (h : Move e e') (hlost : e'.point.stage = .lost) :
    e'.halts = e.halts ∧ e'.breakpointId = e.breakpointId ∧
      (e'.session = e.session ∨ e'.session = e.session.fail) := by
  cases h with
  | enter hentry _ => cases hentry <;> exact Stage.noConfusion hlost
  | install _ _ => exact Stage.noConfusion hlost
  | @record pause expression rest => cases rest <;> exact Stage.noConfusion hlost
  | note => exact Stage.noConfusion hlost
  | @pause first => cases first <;> exact Stage.noConfusion hlost
  | @discover pause =>
    rw [stage_evaluateNext] at hlost
    split at hlost <;> exact Stage.noConfusion hlost
  | @conclude outcome =>
    cases outcome with
    | ok pauses => exact Stage.noConfusion hlost
    | error error => exact ⟨rfl, rfl, Or.inr rfl⟩
  | _ => exact ⟨rfl, rfl, Or.inl rfl⟩

/-- A session that has failed has forgotten its candidates, unless it was over before. -/
theorem fail_of_isDiscovered {session : Session} (h : session.fail.isDiscovered = true) :
    session.fail = session := by
  rw [Session.fail] at h ⊢
  split
  · rfl
  · rename_i hopen
    rw [if_neg hopen] at h
    exact Bool.noConfusion h

theorem Tracks.move (h : Tracks o e) (hc' : Chronicle o e') (hmove : Move e e') :
    Tracks o e' := by
  intro hdiscovered
  by_cases hlost : e'.point.stage = .lost
  · obtain ⟨hhalts, hid, hsession⟩ := hmove.of_lost hlost
    have hkept : e'.session = e.session := by
      rcases hsession with hsame | hfailed
      · exact hsame
      · rw [hfailed] at hdiscovered ⊢
        exact fail_of_isDiscovered hdiscovered
    rw [hkept] at hdiscovered
    rw [hhalts, hid, hkept]
    exact h hdiscovered
  · exact hc'.expressions_eq hlost hdiscovered

theorem Outset.tracks_run (o : Outset) (events : List Event) : Tracks o (o.run events) :=
  o.run_induction_from [] events (fun h => Bool.noConfusion h) (fun _ _ _ h => h) (fun _ _ h => h)
    fun _ _ _ _ hc' h hmove => h.move hc' hmove

/-! ### Evaluations -/

/-- The number of the breakpoint changes only when it is installed. -/
theorem Move.breakpointId_eq (h : Move e e') (hstage : ∀ call, e.point.stage ≠ .installing call) :
    e'.breakpointId = e.breakpointId := by
  cases h with
  | @install call _ _ _ hanswered _ =>
    exact absurd (by rw [hanswered.point]; rfl) (hstage call)
  | record => simp
  | note =>
    obtain ⟨session, heq⟩ := e.noteContext_eq _
    rw [heq]
    rfl
  | discover => simp
  | @conclude outcome => cases outcome <;> rfl
  | _ => rfl

/-- Once a pause has been read, the number of the breakpoint stays. -/
theorem Outset.breakpointId_run (o : Outset) (earlier later : List Event)
    (hhalts : (o.run earlier).halts ≠ []) :
    (o.run (earlier ++ later)).breakpointId = (o.run earlier).breakpointId := by
  suffices h : (o.run (earlier ++ later)).halts ≠ [] ∧
      (o.run (earlier ++ later)).breakpointId = (o.run earlier).breakpointId from h.2
  refine o.run_induction_from (P := fun e => e.halts ≠ [] ∧
    e.breakpointId = (o.run earlier).breakpointId) earlier later ⟨hhalts, rfl⟩ (fun _ _ _ h => h)
    (fun _ _ h => h) fun e e' _ hc _ h hmove => ⟨?_, ?_⟩
  · rcases hmove.halts_cases with hsame | ⟨_, _, event, _, _, hread, _⟩
    · rw [hsame]
      exact h.1
    · rw [hread]
      exact List.append_ne_nil_of_left_ne_nil h.1 _
  · rw [hmove.breakpointId_eq fun call hstage => h.1 (hc.halts_eq_nil hstage)]
    exact h.2

/-- An evaluation in the line for a pause is one of an expression on the top frame, and whatever
comes before it is an evaluation too. -/
theorem of_lineFor_eq {expressions : List String} {halt : PausedEvent} {before after : List Content}
    {content : Content} (h : lineFor expressions halt = before ++ content :: after)
    (hmethod : content.1 = "Debugger.evaluateOnCallFrame") :
    ∃ top, halt.callFrames.head? = some top ∧
      (∃ expression ∈ expressions, content = evaluation top.id expression) ∧
      ∀ other ∈ before, other.1 = "Debugger.evaluateOnCallFrame" := by
  rw [lineFor] at h
  split at h
  · rename_i top others hframes
    refine ⟨top, by rw [hframes]; rfl, ?_⟩
    have hevaluations : before ++ [content] <+: expressions.map (evaluation top.id) := by
      have hprefix : before ++ [content] <+: expressions.map (evaluation top.id) ++ [resumption] :=
        ⟨after, by rw [h, List.append_assoc, List.singleton_append]⟩
      rcases List.prefix_concat_iff.1 hprefix with heq | hprefix
      · -- The last word of the line is to resume, which is no evaluation.
        have hlast := (List.append_inj' heq rfl).2
        rw [List.singleton_inj] at hlast
        rw [hlast] at hmethod
        exact absurd hmethod (by decide)
      · exact hprefix
    have hword : ∀ word ∈ before ++ [content],
        ∃ expression ∈ expressions, word = evaluation top.id expression := by
      intro word hmem
      obtain ⟨expression, hexpression, rfl⟩ := List.mem_map.1 (hevaluations.subset hmem)
      exact ⟨expression, hexpression, rfl⟩
    refine ⟨hword content (List.mem_append_right _ (List.mem_singleton_self _)),
      fun other hother => ?_⟩
    obtain ⟨expression, -, rfl⟩ := hword other (List.mem_append_left _ hother)
    rfl
  · exact absurd h.symm (by simp)

/-- While no pause is read, what is written belongs to the present line. -/
theorem Recites.exists_of_written {said said' left left' : List Content}
    (h : Recites o e said left) (h' : Recites o e' said' left')
    (hlines : o.lines e'.breakpointId e'.halts = o.lines e.breakpointId e.halts)
    {between : List Request} (hwritten : e'.connection.written = e.connection.written ++ between) :
    said' = said ++ between.map Request.content := by
  obtain ⟨passed, hbefore, hcontents⟩ := h
  obtain ⟨passed', hafter, hcontents'⟩ := h'
  obtain ⟨rfl, -⟩ := List.append_inj' (hafter.symm.trans (hlines.trans hbefore)) rfl
  rw [Engine.contents, hwritten, List.map_append, ← Engine.contents, hcontents,
    List.append_assoc] at hcontents'
  exact (List.append_cancel_left hcontents').symm

/-- An evaluation that is written after the latest pause was read is one of a tracked expression on
its top frame, and nothing but evaluations is written between the two. -/
theorem Outset.evaluations_at_latest_halt (o : Outset) {earlier later : List Event}
    (hhalts : (o.fresh.run (earlier ++ later)).halts = (o.fresh.run earlier).halts)
    {sent rest : List Request} {q : Request}
    (hwritten : (o.fresh.run (earlier ++ later)).connection.written =
      (o.fresh.run earlier).connection.written ++ (sent ++ q :: rest))
    (hmethod : q.method = "Debugger.evaluateOnCallFrame") :
    ∃ halt top, (o.fresh.run (earlier ++ later)).halts.getLast? = some halt ∧
      halt.callFrames.head? = some top ∧
      (∃ expression ∈ o.fresh.expressions (evaluatedHalts o.fresh.settings
          (o.fresh.run (earlier ++ later)).breakpointId (o.fresh.run (earlier ++ later)).halts),
        q.params = some (.object [("callFrameId", .string top.id),
          ("expression", .string expression), ("throwOnSideEffect", .bool true),
          ("silent", .bool true)])) ∧
      ∀ other ∈ sent, other.method = "Debugger.evaluateOnCallFrame" := by
  obtain ⟨said, left, hbefore, -⟩ := o.recital_run earlier
  obtain ⟨said', left', hafter, -⟩ := o.recital_run (earlier ++ later)
  have hlines : o.fresh.lines (o.fresh.run (earlier ++ later)).breakpointId
      (o.fresh.run (earlier ++ later)).halts =
      o.fresh.lines (o.fresh.run earlier).breakpointId (o.fresh.run earlier).halts := by
    by_cases hnone : (o.fresh.run earlier).halts = []
    · rw [hhalts, hnone]
      rfl
    · rw [hhalts, o.fresh.breakpointId_run earlier later hnone]
  have hsaid := hbefore.exists_of_written hafter hlines hwritten
  have hline := hafter.getLast?_lines
  rw [hsaid, List.map_append, List.map_cons] at hline
  cases hlast : (o.fresh.run (earlier ++ later)).halts.getLast? with
  | none =>
    -- Without a pause there is only the first line, in which nothing is evaluated.
    rw [List.getLast?_eq_none_iff.1 hlast] at hline
    have hopening : o.fresh.opening = said ++ (sent.map Request.content ++
        q.content :: rest.map Request.content) ++ left' := Option.some.inj hline
    have hno : ∀ word ∈ o.fresh.opening, word.1 ≠ "Debugger.evaluateOnCallFrame" := by
      simp [Outset.opening]
    refine absurd hmethod (hno q.content ?_)
    rw [hopening]
    simp
  | some halt =>
    rw [o.fresh.getLast?_lines _ hlast, Option.some.injEq, ← List.append_assoc, List.append_assoc,
      List.cons_append] at hline
    obtain ⟨top, htop, ⟨expression, hexpression, hcontent⟩, hsent⟩ := of_lineFor_eq hline hmethod
    refine ⟨halt, top, rfl, htop, ⟨expression, hexpression, congrArg Prod.snd hcontent⟩,
      fun other hother => ?_⟩
    exact hsent other.content (List.mem_append_right _ (List.mem_map_of_mem hother))

/-- What the engine writes on a connection that was just made.  At most one request is pending at
any time, and the requests are numbered from 1 on.  They are a part of the script for the pauses
that were read, and all lines but the one for the latest pause are complete: first the
configuration, and then for every pause an evaluation of every tracked expression, in the order of
discovery, unless the pause is skipped, and a resume.  A request is written only when all earlier
ones have been answered, and nothing is written after the answer to one that is no evaluation is an
error.  An evaluation names the top frame of the latest pause and a tracked expression, and since
that pause was read nothing but evaluations has been written before it. -/
theorem requests_follow_script (o : Outset) (events : List Event) :
    let e := o.fresh.run events
    let script := o.lines e.breakpointId e.halts
    let expressions := o.expressions (evaluatedHalts o.settings e.breakpointId e.halts)
    e.connection.registry.pending.length ≤ 1 ∧
    e.connection.written.map Request.id = List.range' 1 e.connection.written.length ∧
    e.contents <+: script.flatten ∧ script.dropLast.flatten <+: e.contents ∧
    (e.session.isDiscovered = true → e.session.tracked.expressions = expressions) ∧
    (∀ before event, events = before ++ [event] →
      (o.fresh.run before).connection.written ≠ e.connection.written →
      ∀ q ∈ (o.fresh.run before).connection.written, ∃ r, o.fresh.Arrives before q.id r) ∧
    (∀ q ∈ e.connection.written, q.method ≠ "Debugger.evaluateOnCallFrame" →
      ∀ r body, o.fresh.Arrives events q.id r → r.outcome = .error body →
        e.connection.written.getLast? = some q) ∧
    ∀ earlier later, events = earlier ++ later → (o.fresh.run earlier).halts = e.halts →
      ∀ sent q rest, e.connection.written =
          (o.fresh.run earlier).connection.written ++ (sent ++ q :: rest) →
        q.method = "Debugger.evaluateOnCallFrame" →
        ∃ halt top, e.halts.getLast? = some halt ∧ halt.callFrames.head? = some top ∧
          (∃ expression ∈ expressions,
            q.params = some (.object [("callFrameId", .string top.id),
              ("expression", .string expression), ("throwOnSideEffect", .bool true),
              ("silent", .bool true)])) ∧
          ∀ other ∈ sent, other.method = "Debugger.evaluateOnCallFrame" := by
  intro e script expressions
  obtain ⟨reply, haccounts, -⟩ := o.fresh.exists_accounts_run events
  obtain ⟨said, left, hrecites, -⟩ := o.recital_run events
  refine ⟨(o.serial_run events).pending_length_le_one ⟨reply, haccounts⟩ ?_,
    o.ids_written_run events, hrecites.between.2, hrecites.between.1, o.fresh.tracks_run events,
    ?_, ?_, ?_⟩
  · obtain ⟨operations, heq⟩ := o.fresh.engine.exists_operations_run events
    have hconnection : e.connection = (Connection.opened o.requestBound).run operations := heq
    rw [hconnection]
    exact Connection.nodup_pending_run o.requestBound operations
  · rintro before event rfl hwritten q hq
    exact o.answered_before hwritten hq
  · intro q hq hmethod r body harrives herror
    exact o.getLast?_of_error events hq hmethod harrives herror
  · rintro earlier later rfl hhalts sent q rest hwritten hmethod
    exact o.evaluations_at_latest_halt hhalts.symm hwritten hmethod

end ValueTrace.Stepping
