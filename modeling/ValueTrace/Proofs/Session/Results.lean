import Mathlib.Data.List.Perm.Basic
import ValueTrace.Proofs.Report.Lines
import ValueTrace.Proofs.Scope.Histories

/-!
# The two shapes of a result

The records of a result go from candidate to candidate, and its histories from text to text.  Both
hold the same values at the same places, because the texts that are tracked are the texts of the
candidates without repetition: the places of a text are those of its candidates, and every candidate
has one text (`TraceResult.perm_readings`).

The place of a candidate is in the entry of its text, but it need not be in one entry only, since
candidates of different texts may have the same range (`shared_range_has_two_entries`).

## Main definitions

* `Session.recorded` : a session that took candidates and then values.
* `valuesOf` : what was recorded for a text.
* `textsAt` : the texts that are found at a range.
* `ResultsAgree` : what the two shapes have in common.

## Main results

* `Session.ofSession_recorded` : the result of such a session.
* `records_agree_with_expressions` : its two shapes agree.
-/

namespace ValueTrace

variable {candidates : List Candidate} {log : List (String × ValueRecord)} {text : String}

/-! ### What a session holds -/

/-- A session that takes candidates and then records values, one by one. -/
def Session.recorded (s : Session) (candidates : List Candidate)
    (log : List (String × ValueRecord)) : Session :=
  log.foldl (fun s entry => s.record entry.1 entry.2) (s.setCandidates candidates)

/-- The values that are recorded for a text, in order. -/
def valuesOf (log : List (String × ValueRecord)) (text : String) : List ValueRecord :=
  (log.filter fun entry => entry.1 = text).map Prod.snd

/-- The texts of candidates, each once, in the order in which they are first found. -/
def textsOf (candidates : List Candidate) : List String :=
  (candidates.map Candidate.expression).eraseDups

theorem nodup_textsOf (candidates : List Candidate) : (textsOf candidates).Nodup := by
  rw [textsOf, ← TrackedExpressions.expressions_ofCandidates]
  exact TrackedExpressions.nodup_expressions_ofCandidates candidates

theorem mem_textsOf : text ∈ textsOf candidates ↔ ∃ c ∈ candidates, c.expression = text := by
  rw [textsOf, List.mem_eraseDups, List.mem_map]

namespace TrackedExpressions

/-- The values recorded for candidates are the whole history of their texts. -/
theorem history?_recordAll_ofCandidates (h : text ∈ textsOf candidates) :
    ((ofCandidates candidates).recordAll log).history? text = some (valuesOf log text) := by
  rw [textsOf, ← expressions_ofCandidates] at h
  rw [history?_recordAll, history?_ofCandidates h]
  rfl

theorem entries_recordAll_ofCandidates :
    ((ofCandidates candidates).recordAll log).entries =
      (textsOf candidates).map fun text => (text, valuesOf log text) := by
  have hexpressions :
      ((ofCandidates candidates).recordAll log).expressions = textsOf candidates := by
    rw [expressions_recordAll, expressions_ofCandidates, textsOf]
  rw [entries_eq (hexpressions ▸ nodup_textsOf candidates), hexpressions]
  refine List.map_congr_left fun text htext => ?_
  rw [history?_recordAll_ofCandidates htext, Option.getD_some]

end TrackedExpressions

namespace Session

theorem candidates_recorded (s : Session) :
    (s.recorded candidates log).candidates = candidates := by
  induction log using List.reverseRecOn with
  | nil => rfl
  | append_singleton log entry ih =>
    rw [recorded, List.foldl_append]
    exact ih

theorem tracked_recorded (s : Session) :
    (s.recorded candidates log).tracked =
      (TrackedExpressions.ofCandidates candidates).recordAll log := by
  induction log using List.reverseRecOn with
  | nil => rfl
  | append_singleton log entry ih =>
    rw [TrackedExpressions.recordAll_concat, ← ih, recorded, List.foldl_append]
    rfl

/-- The result of a session that took candidates and then values. -/
theorem ofSession_recorded (s : Session) (pauses : Nat) :
    TraceResult.ofSession (s.recorded candidates log) pauses =
      ⟨candidates.flatMap fun c => (valuesOf log c.expression).map fun v => ⟨v.text, c.range⟩,
        (textsOf candidates).map fun text =>
          ⟨text, TraceResult.rangesOf candidates text, valuesOf log text⟩, pauses⟩ := by
  rw [TraceResult.ofSession, candidates_recorded, tracked_recorded,
    TrackedExpressions.entries_recordAll_ofCandidates, List.map_map]
  congr 1
  refine List.flatMap_congr fun c hc => ?_
  rw [TraceResult.recordsOf,
    TrackedExpressions.history?_recordAll_ofCandidates (mem_textsOf.2 ⟨c, hc, rfl⟩),
    Option.getD_some]

end Session

/-! ### Grouping -/

/-- Candidates grouped by texts are the candidates whose texts are among them. -/
theorem perm_flatMap_filter {texts : List String} (hnodup : texts.Nodup)
    (candidates : List Candidate) :
    (texts.flatMap fun text => candidates.filter fun c => c.expression = text).Perm
      (candidates.filter fun c => c.expression ∈ texts) := by
  induction texts with
  | nil => simp
  | cons text texts ih =>
    obtain ⟨hfresh, hnodup⟩ := List.nodup_cons.1 hnodup
    have hfirst : (candidates.filter fun c => c.expression ∈ text :: texts).filter
        (fun c => c.expression = text) = candidates.filter fun c => c.expression = text := by
      rw [List.filter_filter]
      refine List.filter_congr fun c _ => ?_
      by_cases h : c.expression = text <;> simp [h]
    have hrest : (candidates.filter fun c => c.expression ∈ text :: texts).filter
        (fun c => !decide (c.expression = text)) =
          candidates.filter fun c => c.expression ∈ texts := by
      rw [List.filter_filter]
      refine List.filter_congr fun c _ => ?_
      by_cases h : c.expression = text
      · simp [h, hfresh]
      · simp [h]
    have hsplit := List.filter_append_perm (fun c => decide (c.expression = text))
      (candidates.filter fun c => c.expression ∈ text :: texts)
    rw [hfirst, hrest] at hsplit
    rw [List.flatMap_cons]
    exact ((ih hnodup).append_left _).trans hsplit

/-- Candidates grouped by their texts are the same candidates. -/
theorem perm_candidates (candidates : List Candidate) :
    ((textsOf candidates).flatMap fun text => candidates.filter fun c => c.expression = text).Perm
      candidates := by
  have hall : (candidates.filter fun c => c.expression ∈ textsOf candidates) = candidates :=
    List.filter_eq_self.2 fun c hc => decide_eq_true (mem_textsOf.2 ⟨c, hc, rfl⟩)
  exact (perm_flatMap_filter (nodup_textsOf candidates) candidates).trans (.of_eq hall)

/-! ### What the shapes have in common -/

/-- The values of an entry at all its places. -/
def ExpressionTrace.readings (e : ExpressionTrace) : List TraceRecord :=
  e.ranges.flatMap fun range => e.values.map fun v => ⟨v.text, range⟩

/-- The records of a candidate together with its text. -/
def readingsOf (log : List (String × ValueRecord)) (c : Candidate) : List (String × TraceRecord) :=
  (valuesOf log c.expression).map fun v => (c.expression, ⟨v.text, c.range⟩)

/-- The entry of a text has the records of the candidates with this text. -/
theorem map_readings (text : String) :
    ((⟨text, TraceResult.rangesOf candidates text, valuesOf log text⟩ :
        ExpressionTrace).readings.map fun t => (text, t)) =
      (candidates.filter fun c => c.expression = text).flatMap (readingsOf log) := by
  rw [ExpressionTrace.readings, TraceResult.rangesOf, List.flatMap_map, List.map_flatMap]
  refine List.flatMap_congr fun c hc => ?_
  obtain rfl := of_decide_eq_true (List.mem_filter.1 hc).2
  rw [List.map_map, readingsOf]
  rfl

namespace TraceResult

variable (candidates log) (s : Session) (pauses : Nat)

/-- All entries together have the records of all candidates. -/
theorem perm_readings :
    ((ofSession (s.recorded candidates log) pauses).expressions.flatMap fun e =>
        e.readings.map fun t => (e.expression, t)).Perm
      (candidates.flatMap (readingsOf log)) := by
  rw [Session.ofSession_recorded, List.flatMap_map]
  simp only [map_readings]
  rw [← List.flatMap_assoc]
  exact (perm_candidates candidates).flatMap_right _

theorem records_eq :
    (ofSession (s.recorded candidates log) pauses).records =
      (candidates.flatMap (readingsOf log)).map Prod.snd := by
  rw [Session.ofSession_recorded, List.map_flatMap]
  simp [readingsOf, Function.comp_def]

theorem perm_records :
    (ofSession (s.recorded candidates log) pauses).records.Perm
      ((ofSession (s.recorded candidates log) pauses).expressions.flatMap
        ExpressionTrace.readings) := by
  have hperm := (perm_readings candidates log s pauses).map Prod.snd
  rw [← records_eq candidates log s pauses, List.map_flatMap] at hperm
  simpa [Function.comp_def] using hperm.symm

/-- There is a record for each candidate and each value of its text. -/
theorem length_records {n : Nat}
    (h : ∀ e ∈ (ofSession (s.recorded candidates log) pauses).expressions, e.values.length = n) :
    (ofSession (s.recorded candidates log) pauses).records.length = candidates.length * n := by
  rw [Session.ofSession_recorded] at h ⊢
  have hlength : ∀ c ∈ candidates, (valuesOf log c.expression).length = n := fun c hc =>
    h _ (List.mem_map.2 ⟨_, mem_textsOf.2 ⟨c, hc, rfl⟩, rfl⟩)
  clear h
  induction candidates with
  | nil => simp
  | cons c candidates ih =>
    obtain ⟨hc, hcandidates⟩ := List.forall_mem_cons.1 hlength
    simp [hc, ih hcandidates, Nat.succ_mul, Nat.add_comm]

end TraceResult

/-- The texts that are found at a range, each once. -/
def textsAt (candidates : List Candidate) (range : SourceRange) : List String :=
  textsOf (candidates.filter fun c => c.range = range)

theorem mem_textsAt {range : SourceRange} :
    text ∈ textsAt candidates range ↔ ∃ c ∈ candidates, c.range = range ∧ c.expression = text := by
  simp [textsAt, mem_textsOf, and_assoc]

theorem mem_rangesOf {range : SourceRange} :
    range ∈ TraceResult.rangesOf candidates text ↔
      ∃ c ∈ candidates, c.range = range ∧ c.expression = text := by
  simp [TraceResult.rangesOf, and_assoc, and_comm (a := _ = text)]

/-- A range is in the entries of the texts that are found there. -/
theorem TraceResult.perm_textsAt (candidates : List Candidate)
    (log : List (String × ValueRecord)) (s : Session) (pauses : Nat) (range : SourceRange) :
    (((ofSession (s.recorded candidates log) pauses).expressions.filter fun e =>
        range ∈ e.ranges).map ExpressionTrace.expression).Perm (textsAt candidates range) := by
  have hentries : (((ofSession (s.recorded candidates log) pauses).expressions.filter fun e =>
      range ∈ e.ranges).map ExpressionTrace.expression) =
        (textsOf candidates).filter fun text => range ∈ rangesOf candidates text := by
    rw [Session.ofSession_recorded, List.filter_map, List.map_map]
    exact List.map_id _
  rw [hentries]
  refine (List.perm_ext_iff_of_nodup ((nodup_textsOf _).filter _) (nodup_textsOf _)).2
    fun text => ?_
  rw [List.mem_filter, decide_eq_true_eq, mem_rangesOf, ← textsAt, mem_textsAt, mem_textsOf]
  constructor
  · exact And.right
  · rintro ⟨c, hc, hrange, htext⟩
    exact ⟨⟨c, hc, htext⟩, c, hc, hrange, htext⟩

/-- A range at which one text is found is in one entry. -/
theorem length_textsAt {c : Candidate} (hc : c ∈ candidates)
    (h : ∀ c' ∈ candidates, c'.range = c.range → c'.expression = c.expression) :
    (textsAt candidates c.range).length = 1 := by
  have hperm : (textsAt candidates c.range).Perm [c.expression] := by
    refine (List.perm_ext_iff_of_nodup (nodup_textsOf _) (List.nodup_singleton _)).2 fun text => ?_
    rw [← textsAt, mem_textsAt, List.mem_singleton]
    constructor
    · rintro ⟨c', hc', hrange, rfl⟩
      exact h c' hc' hrange
    · rintro rfl
      exact ⟨c, hc, rfl, rfl⟩
  exact hperm.length_eq

/-! ### What the text shows -/

namespace Report

variable {file : FilePath} {r : TraceResult}

/-- The lines of a result show the readings of its entries. -/
theorem trace_of_records (h : r.records ≠ []) :
    trace file r = written ((r.expressions.flatMap fun e =>
      e.readings.map fun t => (e.expression, t)).map fun shown =>
        traceLine? file shown.1 shown.2.range ⟨shown.2.message⟩) := by
  have hsome : r.isEmpty = false := by rwa [TraceResult.isEmpty, List.isEmpty_eq_false_iff]
  rw [trace, traceLines, hsome, if_neg Bool.false_ne_true, List.map_flatMap]
  congr 1
  refine List.flatMap_congr fun e _ => ?_
  rw [expressionLines, ExpressionTrace.readings, List.map_map, List.map_flatMap]
  refine List.flatMap_congr fun range _ => ?_
  rw [List.map_map]
  rfl

theorem equals_mem_of_traceLine? {text line : String} {range : SourceRange} {v : ValueRecord}
    (h : traceLine? file text range v = some line) : '=' ∈ line.toList := by
  obtain ⟨place, -, hline⟩ := Option.bind_eq_some_iff.1 h
  rw [← Option.some.inj hline]
  simp

/-- What is written of values is not what is written when there is none. -/
theorem written_traceLines_ne_nothing (shown : List (String × TraceRecord)) :
    written (shown.map fun shown =>
      traceLine? file shown.1 shown.2.range ⟨shown.2.message⟩) ≠ nothing := by
  intro heq
  cases shown with
  | nil => exact absurd (show "" = nothing from heq) (by decide)
  | cons first rest =>
    rw [List.map_cons] at heq
    cases hfirst : traceLine? file first.1 first.2.range ⟨first.2.message⟩ with
    | none =>
      rw [hfirst, written] at heq
      exact absurd heq (by decide)
    | some line =>
      have hmem : '=' ∈ nothing.toList := by
        rw [← heq, hfirst, written, String.toList_append]
        exact List.mem_append_left _ (equals_mem_of_traceLine? hfirst)
      exact absurd hmem (by decide)

/-- Nothing is said to be recorded if and only if there is no record. -/
theorem trace_eq_nothing_iff : trace file r = nothing ↔ r.records = [] := by
  constructor
  · intro htrace
    by_contra hrecords
    rw [trace_of_records hrecords] at htrace
    exact written_traceLines_ne_nothing _ htrace
  · intro hrecords
    rw [trace, traceLines, TraceResult.isEmpty, hrecords]
    rfl

end Report

/-! ### Agreement -/

/-- What the two shapes of a result have in common. -/
structure ResultsAgree (candidates : List Candidate) (log : List (String × ValueRecord))
    (r : TraceResult) : Prop where
  /-- Each candidate in turn has a record at its range for every value of its text, in order. -/
  records : r.records = candidates.flatMap fun c =>
    (valuesOf log c.expression).map fun v => ⟨v.text, c.range⟩
  /-- The entries have the same values at the same ranges. -/
  readings : r.records.Perm (r.expressions.flatMap ExpressionTrace.readings)
  /-- A range is in one entry for each text that is found there. -/
  entries (range : SourceRange) : ((r.expressions.filter fun e => range ∈ e.ranges).map
    ExpressionTrace.expression).Perm (textsAt candidates range)
  /-- The range of a candidate is in one entry if no other text is found there. -/
  entry : ∀ c ∈ candidates,
    (∀ c' ∈ candidates, c'.range = c.range → c'.expression = c.expression) →
      (r.expressions.filter fun e => c.range ∈ e.ranges).length = 1
  /-- There are as many records as candidates times values. -/
  length (n : Nat) : (∀ e ∈ r.expressions, e.values.length = n) →
    r.records.length = candidates.length * n
  /-- The text has a line for each record, with the text of its candidate, in some order.  It breaks
  off before the first line whose place cannot be shown, and has all lines if there is none. -/
  lines (file : FilePath) : r.records ≠ [] → ∃ shown : List (String × TraceRecord),
    shown.Perm (candidates.flatMap (readingsOf log)) ∧ (shown.map Prod.snd).Perm r.records ∧
      Report.trace file r = Report.written (shown.map fun shown =>
        Report.traceLine? file shown.1 shown.2.range ⟨shown.2.message⟩) ∧
      ((∀ t ∈ r.records, Report.Fits t.range) → Report.trace file r =
        String.join (shown.map fun shown => Report.line file shown ++ "\n"))
  /-- The text says that there is nothing if and only if the list of records is empty. -/
  nothing (file : FilePath) :
    Report.trace file r = Report.nothing ↔ r.records.map TraceRecord.value = []

/-- The two shapes of the result of a session, which took candidates and then recorded any values,
have the same values at the same places, and so have the two ways to write it. -/
theorem records_agree_with_expressions (s : Session) (candidates : List Candidate)
    (log : List (String × ValueRecord)) (pauses : Nat) :
    ResultsAgree candidates log (TraceResult.ofSession (s.recorded candidates log) pauses) where
  records := by rw [Session.ofSession_recorded]
  readings := TraceResult.perm_records candidates log s pauses
  entries := TraceResult.perm_textsAt candidates log s pauses
  entry c hc hsame := by
    have hperm := TraceResult.perm_textsAt candidates log s pauses c.range
    rw [← List.length_map, hperm.length_eq, length_textsAt hc hsame]
  length n := TraceResult.length_records candidates log s pauses
  lines file hrecords := by
    have hshown := TraceResult.perm_readings candidates log s pauses
    have hperm := hshown.map Prod.snd
    rw [← TraceResult.records_eq candidates log s pauses] at hperm
    have htext := @Report.trace_of_records file _ hrecords
    refine ⟨_, hshown, hperm, htext, fun hfits => ?_⟩
    rw [htext, Report.written_traceLines, Report.showable_eq_self_iff.2]
    exact fun shown hmem => hfits _ (hperm.subset (List.mem_map_of_mem hmem))
  nothing file := by rw [List.map_eq_nil_iff, Report.trace_eq_nothing_iff]

/-- Candidates of different texts with the same range. -/
def sampleOverlap : List Candidate := [⟨"a", ⟨0, 0, 0, 1⟩⟩, ⟨"b", ⟨0, 0, 0, 1⟩⟩]

/-- The range of candidates of different texts is in the entries of both. -/
theorem shared_range_has_two_entries :
    let s := (Session.start 1 ⟨[]⟩ ⟨[]⟩ 0).recorded sampleOverlap [("a", ⟨"1"⟩), ("b", ⟨"2"⟩)]
    (TraceResult.ofSession s 1).expressions =
      [⟨"a", [⟨0, 0, 0, 1⟩], [⟨"1"⟩]⟩, ⟨"b", [⟨0, 0, 0, 1⟩], [⟨"2"⟩]⟩] ∧
    ¬ ∀ c ∈ sampleOverlap,
      ((TraceResult.ofSession s 1).expressions.filter fun e => c.range ∈ e.ranges).length = 1 := by
  decide

end ValueTrace
