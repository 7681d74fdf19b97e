import Mathlib.Data.List.TakeWhile
import ValueTrace.Proofs.Scope.Histories

/-!
# Tables and their logs

A table of histories is told by the log of all that was done to it.  What was done before the table
was last cleared, or made anew for some candidates, does not count.  Of the rest, the expressions of
the table are those that were tracked, each once and in the order of their first tracking, and the
history of an expression has the values that were recorded for it after that, in order
(`table_follows_log`).

## Main definitions

* `TrackedExpressions.Operation`, `TrackedExpressions.run` : what can be done to a table.
* `sinceRestart` : the part of a log that counts.
* `trackedBy`, `recordedBy` : the expressions and the histories that a log tells.
* `TrackedExpressions.Follows` : what a table has to do with its log.

## Main results

* `TrackedExpressions.expressions_run`, `TrackedExpressions.history?_run` : the table of a log.
* `TrackedExpressions.table_follows_log` : all that a log tells about its table.
-/

namespace ValueTrace.TrackedExpressions

/-! ### Logs -/

/-- Everything that can be done to a table. -/
inductive Operation where
  | ofCandidates (candidates : List Candidate)
  | track (expression : String)
  | record (expression : String) (value : ValueRecord)
  | clear

namespace Operation

/-- Whether an operation starts the table anew. -/
def restarts : Operation → Bool
  | .ofCandidates _ | .clear => true
  | .track _ | .record .. => false

/-- The expressions that an operation asks to track, in order. -/
def tracks : Operation → List String
  | .ofCandidates candidates => candidates.map Candidate.expression
  | .track expression => [expression]
  | .record .. | .clear => []

/-- The value that an operation asks to record for an expression. -/
def value? (expression : String) : Operation → Option ValueRecord
  | .record other value => if other = expression then some value else none
  | .ofCandidates _ | .track _ | .clear => none

/-- The one expression that an operation is about. -/
def subject? : Operation → Option String
  | .track expression | .record expression _ => some expression
  | .ofCandidates _ | .clear => none

end Operation

/-- What an operation does. -/
def apply (t : TrackedExpressions) : Operation → TrackedExpressions
  | .ofCandidates candidates => .ofCandidates candidates
  | .track expression => (t.track expression).1
  | .record expression value => (t.record expression value).1
  | .clear => t.clear

/-- The table after a log. -/
def run (log : List Operation) : TrackedExpressions := log.foldl apply empty

/-- The part of a log from the last operation on that starts the table anew. -/
def sinceRestart : List Operation → List Operation
  | [] => []
  | operation :: rest =>
    if rest.any Operation.restarts then sinceRestart rest else operation :: rest

/-- The expressions that are tracked after a log, in the order of their first tracking. -/
def trackedBy (log : List Operation) : List String :=
  ((sinceRestart log).flatMap Operation.tracks).eraseDups

/-- The values that were recorded for an expression after it was tracked. -/
def recordedBy (log : List Operation) (expression : String) : List ValueRecord :=
  ((sinceRestart log).dropWhile fun operation => expression ∉ operation.tracks).filterMap
    (Operation.value? expression)

variable {t : TrackedExpressions} {log : List Operation} {operation : Operation}
variable {expression other : String}

theorem run_concat (log : List Operation) (operation : Operation) :
    run (log ++ [operation]) = (run log).apply operation := by
  rw [run, List.foldl_append]
  rfl

theorem sinceRestart_concat (log : List Operation) (operation : Operation) :
    sinceRestart (log ++ [operation]) =
      if operation.restarts then [operation] else sinceRestart log ++ [operation] := by
  induction log with
  | nil => simp [sinceRestart]
  | cons first log ih =>
    rw [List.cons_append, sinceRestart, sinceRestart, ih]
    cases hop : operation.restarts <;> cases hlog : log.any Operation.restarts <;> simp [hop, hlog]

theorem mem_trackedBy :
    expression ∈ trackedBy log ↔ ∃ o ∈ sinceRestart log, expression ∈ o.tracks := by
  rw [trackedBy, List.mem_eraseDups, List.mem_flatMap]

theorem trackedBy_concat_of_restarts (h : operation.restarts = true) :
    trackedBy (log ++ [operation]) = operation.tracks.eraseDups := by
  rw [trackedBy, sinceRestart_concat, if_pos h, List.flatMap_singleton]

theorem trackedBy_concat (h : operation.restarts = false) :
    trackedBy (log ++ [operation]) =
      ((sinceRestart log).flatMap Operation.tracks ++ operation.tracks).eraseDups := by
  rw [trackedBy, sinceRestart_concat, h, if_neg Bool.false_ne_true, List.flatMap_append,
    List.flatMap_singleton]

/-- The operation that tracks an expression records nothing for it. -/
theorem filterMap_first (operation : Operation) (expression : String) :
    ([operation].dropWhile fun o => expression ∉ o.tracks).filterMap
      (Operation.value? expression) = [] := by
  by_cases htracks : expression ∈ operation.tracks
  · cases operation with
    | record other value => exact absurd htracks List.not_mem_nil
    | _ => simp [htracks, Operation.value?]
  · simp [htracks]

theorem recordedBy_concat_of_restarts (h : operation.restarts = true) :
    recordedBy (log ++ [operation]) expression = [] := by
  rw [recordedBy, sinceRestart_concat, if_pos h, filterMap_first]

/-- What is recorded for an expression is added to its history if the expression is tracked, and is
lost otherwise. -/
theorem recordedBy_concat (h : operation.restarts = false) :
    recordedBy (log ++ [operation]) expression =
      if expression ∈ trackedBy log then
        recordedBy log expression ++ (operation.value? expression).toList
      else [] := by
  have huntracked : ((sinceRestart log).dropWhile fun o => expression ∉ o.tracks).isEmpty = true ↔
      expression ∉ trackedBy log := by
    rw [List.isEmpty_iff, List.dropWhile_eq_nil_iff, mem_trackedBy]
    simp
  rw [recordedBy, sinceRestart_concat, h, if_neg Bool.false_ne_true, List.dropWhile_append]
  by_cases htracked : expression ∈ trackedBy log
  · rw [if_neg (by rwa [huntracked, not_not]), if_pos htracked, List.filterMap_append, recordedBy]
    cases hvalue : operation.value? expression <;> simp [hvalue]
  · rw [if_pos (huntracked.2 htracked), if_neg htracked, filterMap_first]

/-! ### Tables of logs -/

/-- The table has the expressions that were tracked, each once and in the order of their first
tracking. -/
theorem expressions_run (log : List Operation) : (run log).expressions = trackedBy log := by
  induction log using List.reverseRecOn with
  | nil => rfl
  | append_singleton log operation ih =>
    rw [run_concat]
    cases operation with
    | ofCandidates candidates =>
      rw [apply, expressions_ofCandidates, trackedBy_concat_of_restarts rfl, Operation.tracks]
    | clear =>
      rw [trackedBy_concat_of_restarts rfl]
      rfl
    | track expression =>
      rw [apply, expressions_track, ih, trackedBy_concat rfl, Operation.tracks, eraseDups_concat]
      simp only [trackedBy, List.mem_eraseDups]
    | record expression value =>
      rw [apply, expressions_record, ih, trackedBy_concat rfl, Operation.tracks, List.append_nil,
        trackedBy]

/-- The history of an expression that is tracked has the values that were recorded for it after it
was tracked. -/
theorem history?_run (log : List Operation) (expression : String) :
    (run log).history? expression =
      if expression ∈ trackedBy log then some (recordedBy log expression) else none := by
  induction log using List.reverseRecOn with
  | nil => rfl
  | append_singleton log operation ih =>
    -- On both sides what is tracked is asked of the table, not of the log.
    have htracked := expressions_run (log ++ [operation])
    rw [run_concat] at htracked ⊢
    rw [← htracked]
    cases operation with
    | ofCandidates candidates =>
      rw [recordedBy_concat_of_restarts rfl]
      split_ifs with h
      · exact history?_ofCandidates h
      · exact history?_eq_none_iff.2 h
    | clear => rfl
    | track other =>
      have hvalue : (Operation.track other).value? expression = none := rfl
      rw [apply, history?_track, ih, recordedBy_concat rfl, hvalue, ← expressions_run]
      by_cases h : expression ∈ (run log).expressions
      · simp [mem_expressions_track, h]
      · by_cases hsame : expression = other
        · subst hsame
          simp [mem_expressions_track, h]
        · simp [mem_expressions_track, h, hsame]
    | record other value =>
      rw [apply, history?_record, ih, expressions_record, expressions_run, recordedBy_concat rfl]
      by_cases h : expression ∈ trackedBy log
      · rw [if_pos h, if_pos h, if_pos h, Operation.value?]
        by_cases hsame : expression = other
        · rw [if_pos hsame, if_pos hsame.symm]
          rfl
        · rw [if_neg hsame, if_neg (Ne.symm hsame), Option.toList_none, List.append_nil]
      · simp [h]

/-! ### What a log tells -/

/-- What a table has to do with the log of all that was done to it. -/
structure Follows (t : TrackedExpressions) (log : List Operation) : Prop where
  /-- The table has the expressions that were tracked, each with what was recorded for it. -/
  entries : t.entries =
    (trackedBy log).map fun expression => (expression, recordedBy log expression)
  /-- No expression is there twice. -/
  nodup : t.expressions.Nodup
  /-- The history of an expression is what was recorded for it after it was tracked. -/
  history (expression : String) : t.history? expression =
    if expression ∈ t.expressions then some (recordedBy log expression) else none
  /-- An expression is new exactly if it was not tracked. -/
  tracks (expression : String) : (t.track expression).2 = true ↔ expression ∉ t.expressions
  /-- A value is recorded exactly if its expression is tracked. -/
  records (expression : String) (value : ValueRecord) :
    (t.record expression value).2 = true ↔ expression ∈ t.expressions
  /-- A value that is not recorded changes nothing. -/
  ignores (expression : String) (value : ValueRecord) :
    expression ∉ t.expressions → (t.record expression value).1 = t
  /-- What is done to one expression changes neither the history nor the place of another. -/
  spares (operation : Operation) (expression other : String) :
    operation.subject? = some expression → other ≠ expression →
      (t.apply operation).history? other = t.history? other ∧
      (t.apply operation).expressions.idxOf? other = t.expressions.idxOf? other

/-- A place in a list is not changed by another item that comes last. -/
theorem idxOf?_concat {texts : List String} (h : other ≠ expression) :
    (texts ++ [expression]).idxOf? other = texts.idxOf? other := by
  rw [List.idxOf?, List.findIdx?_append]
  simp [Ne.symm h]

theorem apply_of_subject? (h : operation.subject? = some expression) (hne : other ≠ expression) :
    (t.apply operation).history? other = t.history? other ∧
      (t.apply operation).expressions.idxOf? other = t.expressions.idxOf? other := by
  cases operation with
  | ofCandidates candidates => cases h
  | clear => cases h
  | track subject =>
    obtain rfl := Option.some.inj h
    rw [apply, history?_track, expressions_track, if_neg hne, Option.or_none]
    refine ⟨rfl, ?_⟩
    split_ifs
    · rfl
    · exact idxOf?_concat hne
  | record subject value =>
    obtain rfl := Option.some.inj h
    rw [apply, history?_record, expressions_record, if_neg hne]
    exact ⟨rfl, rfl⟩

/-- The table after a log has the expressions that were tracked since it was last started anew, each
once and in the order of their first tracking, with the values that were recorded for them
afterwards. -/
theorem table_follows_log (log : List Operation) : (run log).Follows log where
  entries := by
    have hnodup : (run log).expressions.Nodup := by
      rw [expressions_run]
      exact nodup_eraseDups _
    rw [entries_eq hnodup, expressions_run]
    refine List.map_congr_left fun expression h => ?_
    rw [history?_run, if_pos h, Option.getD_some]
  nodup := by
    rw [expressions_run]
    exact nodup_eraseDups _
  history expression := by rw [history?_run, expressions_run]
  tracks expression := by
    rw [track_eq]
    split_ifs with h <;> simp [h]
  records expression value := by
    rw [record_eq]
    split_ifs with h <;> simp [h]
  ignores expression value h := by rw [record_eq, if_neg h]
  spares operation expression other h hne := apply_of_subject? h hne

/-- A value that comes before its expression is tracked is lost, and so is all that was there before
the table was cleared. -/
example : (run [.track "a", .record "a" ⟨"0"⟩, .clear, .record "b" ⟨"1"⟩, .track "b", .track "a",
    .record "b" ⟨"2"⟩, .track "b", .record "c" ⟨"3"⟩]).entries =
      [("b", [⟨"2"⟩]), ("a", [])] := by
  decide

end ValueTrace.TrackedExpressions
