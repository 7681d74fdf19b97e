import ValueTrace.Session.Result

/-!
# The life of a session

A session only moves forward through its phases and stays in a final one, whatever is done to it.
One that fails forgets what it collected.  To advance is only to change the phase, though: a session
that is advanced to the failed phase after it took its candidates keeps them
(`advanced_to_failed_keeps`).  Apart from that, a failed session holds nothing and has an empty
result (`failed_holds_nothing`).

## Main definitions

* `Session.Operation`, `Session.apply`, `Session.run` : what can be done to a session.
* `Session.areOrderly` : candidates are taken in time, and are not carried into the failed phase.
* `Session.Tidy` : nothing is tracked without candidates, and a failed session has none.

## Main results

* `Phase.canAdvanceTo_trans` : to advance twice is to advance once.
* `Session.canAdvanceTo_run` : no sequence of operations leads back.
* `Session.failed_holds_nothing` : what a failed session holds.
-/

namespace ValueTrace

/-! ### The order of phases -/

namespace Phase

variable {p q r : Phase}

theorem canAdvanceTo_iff :
    p.canAdvanceTo q = true ↔ p = q ∨ p.isTerminal = false ∧ p.rank ≤ q.rank := by
  simp [canAdvanceTo]

theorem canAdvanceTo_refl (p : Phase) : p.canAdvanceTo p = true := canAdvanceTo_iff.2 (Or.inl rfl)

/-- To advance twice is to advance once. -/
theorem canAdvanceTo_trans (h : p.canAdvanceTo q = true) (h' : q.canAdvanceTo r = true) :
    p.canAdvanceTo r = true := by
  rcases canAdvanceTo_iff.1 h with rfl | ⟨hopen, hle⟩
  · exact h'
  · rcases canAdvanceTo_iff.1 h' with rfl | ⟨-, hle'⟩
    · exact h
    · exact canAdvanceTo_iff.2 (Or.inr ⟨hopen, Nat.le_trans hle hle'⟩)

theorem rank_le_of_canAdvanceTo (h : p.canAdvanceTo q = true) : p.rank ≤ q.rank := by
  rcases canAdvanceTo_iff.1 h with rfl | ⟨-, hle⟩
  · exact Nat.le_refl _
  · exact hle

/-- No phase is further along than the failed one. -/
theorem rank_le_failed (p : Phase) : p.rank ≤ Phase.failed.rank := by
  cases p <;> decide

theorem eq_of_canAdvanceTo (h : p.canAdvanceTo q = true) (hterminal : p.isTerminal = true) :
    q = p := by
  rcases canAdvanceTo_iff.1 h with heq | ⟨hopen, -⟩
  · exact heq.symm
  · exact Bool.noConfusion (hterminal.symm.trans hopen)

end Phase

namespace Session

/-! ### Operations -/

/-- Everything that can be done to a session. -/
inductive Operation where
  | advance (next : Phase)
  | fail
  | setCandidates (candidates : List Candidate)
  | record (expression : String) (value : ValueRecord)

/-- What an operation does.  A session that must not advance stays as it is. -/
def apply (s : Session) : Operation → Session
  | .advance next =>
    match s.advance next with
    | .ok advanced => advanced
    | .error _ => s
  | .fail => s.fail
  | .setCandidates candidates => s.setCandidates candidates
  | .record expression value => s.record expression value

/-- What a sequence of operations does. -/
def run (s : Session) (operations : List Operation) : Session := operations.foldl apply s

/-- Whether an operation takes candidates only while the session is not over, and does not carry
them into the failed phase. -/
def isOrderly (s : Session) : Operation → Bool
  | .setCandidates _ => !s.phase.isTerminal
  | .advance next => next ≠ .failed || s.phase.isTerminal || !s.isDiscovered
  | _ => true

/-- Whether all operations of a sequence are orderly when they are done. -/
def areOrderly (s : Session) : List Operation → Bool
  | [] => true
  | operation :: operations => s.isOrderly operation && (s.apply operation).areOrderly operations

variable {s : Session} {next : Phase} {operation : Operation} {operations : List Operation}

/-- A session advances where it may, and fails to do so exactly where it may not. -/
theorem advance_cases (s : Session) (next : Phase) :
    s.phase.canAdvanceTo next = true ∧ s.advance next = .ok { s with phase := next } ∨
    s.phase.canAdvanceTo next = false ∧
      s.advance next = .error (.invalidPhase s.phase next) := by
  cases h : s.phase.canAdvanceTo next with
  | true => exact Or.inl ⟨rfl, by simp only [advance, h, if_true]⟩
  | false => exact Or.inr ⟨rfl, by simp only [advance, h, Bool.false_eq_true, if_false]⟩

theorem apply_advance (s : Session) (next : Phase) :
    s.apply (.advance next) =
      if s.phase.canAdvanceTo next then { s with phase := next } else s := by
  rcases s.advance_cases next with ⟨h, heq⟩ | ⟨h, heq⟩ <;> simp [apply, h, heq]

/-- An advance that fails names the two phases and changes nothing. -/
theorem apply_advance_of_error {error : SessionError} (h : s.advance next = .error error) :
    error = .invalidPhase s.phase next ∧ s.apply (.advance next) = s := by
  rcases s.advance_cases next with ⟨-, heq⟩ | ⟨hbackward, heq⟩
  · rw [heq] at h
    cases h
  · rw [heq] at h
    refine ⟨(Except.error.inj h).symm, ?_⟩
    rw [apply_advance, hbackward]
    rfl

/-! ### No way back -/

/-- An operation leaves the phase or moves it forward. -/
theorem canAdvanceTo_apply (s : Session) (operation : Operation) :
    s.phase.canAdvanceTo (s.apply operation).phase = true := by
  cases operation with
  | advance next =>
    rw [apply_advance]
    split
    · assumption
    · exact Phase.canAdvanceTo_refl _
  | fail =>
    rw [apply, fail]
    split
    · exact Phase.canAdvanceTo_refl _
    · rename_i hopen
      exact Phase.canAdvanceTo_iff.2 (Or.inr ⟨Bool.eq_false_iff.2 hopen, Phase.rank_le_failed _⟩)
  | setCandidates candidates => exact Phase.canAdvanceTo_refl _
  | record expression value => exact Phase.canAdvanceTo_refl _

theorem canAdvanceTo_run (s : Session) (operations : List Operation) :
    s.phase.canAdvanceTo (s.run operations).phase = true := by
  induction operations generalizing s with
  | nil => exact Phase.canAdvanceTo_refl _
  | cons operation operations ih =>
    exact Phase.canAdvanceTo_trans (s.canAdvanceTo_apply operation) (ih (s.apply operation))

/-! ### What a failed session holds -/

/-- Nothing is tracked without candidates, and a session that has failed has no candidates. -/
structure Tidy (s : Session) : Prop where
  tracked : s.candidates? = none → s.tracked = .empty
  failed : s.phase = .failed → s.candidates? = none

namespace Tidy

theorem start (id : Nat) (target workingDir : FilePath) (line : UInt32) :
    Tidy (Session.start id target workingDir line) :=
  ⟨fun _ => rfl, fun _ => rfl⟩

/-- A session that fails is tidy: it forgets, or it was over before. -/
theorem fail (h : Tidy s) : Tidy s.fail := by
  rw [Session.fail]
  split
  · exact h
  · exact ⟨fun _ => rfl, fun _ => rfl⟩

/-- A value of an expression that is not tracked is not recorded. -/
theorem record (h : Tidy s) (expression : String) (value : ValueRecord) :
    Tidy (s.record expression value) := by
  refine ⟨fun hnone => ?_, h.failed⟩
  change (s.tracked.record expression value).1 = .empty
  rw [h.tracked hnone]
  rfl

/-- A session that is not over may take candidates. -/
theorem setCandidates (hopen : s.phase.isTerminal = false) (candidates : List Candidate) :
    Tidy (s.setCandidates candidates) := by
  refine ⟨fun hnone => absurd hnone (Option.some_ne_none candidates), fun hfailed => ?_⟩
  change s.phase = .failed at hfailed
  rw [hfailed] at hopen
  exact Bool.noConfusion hopen

/-- A session that has taken candidates may advance, except to the failed phase. -/
theorem advance (h : Tidy s) (horderly : s.isOrderly (.advance next) = true) :
    Tidy (s.apply (.advance next)) := by
  rw [apply_advance]
  split
  · rename_i hadvance
    refine ⟨h.tracked, fun hfailed => ?_⟩
    change next = .failed at hfailed
    subst hfailed
    have hcase : s.phase.isTerminal = true ∨ s.isDiscovered = false := by
      simpa [isOrderly] using horderly
    rcases hcase with hterminal | hundiscovered
    · exact h.failed (Phase.eq_of_canAdvanceTo hadvance hterminal).symm
    · simpa [isDiscovered] using hundiscovered
  · exact h

theorem apply (h : Tidy s) (horderly : s.isOrderly operation = true) :
    Tidy (s.apply operation) := by
  cases operation with
  | advance next => exact h.advance horderly
  | fail => exact h.fail
  | setCandidates candidates => exact setCandidates (by simpa [isOrderly] using horderly) candidates
  | record expression value => exact h.record expression value

theorem run (h : Tidy s) (horderly : s.areOrderly operations = true) :
    Tidy (s.run operations) := by
  induction operations generalizing s with
  | nil => exact h
  | cons operation operations ih =>
    obtain ⟨hfirst, hrest⟩ := Bool.and_eq_true_iff.1 horderly
    exact ih (h.apply hfirst) hrest

end Tidy

/-- Without candidates and histories there is nothing to report. -/
theorem ofSession_of_nothing (hcandidates : s.candidates? = none) (htracked : s.tracked = .empty)
    (pauses : Nat) : TraceResult.ofSession s pauses = ⟨[], [], pauses⟩ := by
  simp [TraceResult.ofSession, candidates, hcandidates, htracked, TrackedExpressions.empty]

/-- A session that has failed has no candidates, no histories and an empty result, provided that
candidates were taken while it was not over and it was not merely advanced to the failed phase with
them.  Whatever is done to a session, its phase never goes back, it stays in a final phase, and an
advance that fails changes nothing. -/
theorem failed_holds_nothing (id : Nat) (target workingDir : FilePath) (line : UInt32)
    (operations : List Operation) :
    let s := (start id target workingDir line).run operations
    ((start id target workingDir line).areOrderly operations = true → s.phase = .failed →
      s.candidates? = none ∧ s.tracked = .empty ∧
      ∀ pauses, TraceResult.ofSession s pauses = ⟨[], [], pauses⟩) ∧
    (∀ more, s.phase.rank ≤ (s.run more).phase.rank ∧
      (s.phase.isTerminal = true → (s.run more).phase = s.phase)) ∧
    ∀ next error, s.advance next = .error error →
      error = .invalidPhase s.phase next ∧ s.apply (.advance next) = s := by
  intro s
  refine ⟨fun horderly hfailed => ?_, fun more => ?_, fun next error => apply_advance_of_error⟩
  · have htidy : Tidy s := (Tidy.start id target workingDir line).run horderly
    have hcandidates := htidy.failed hfailed
    have htracked := htidy.tracked hcandidates
    exact ⟨hcandidates, htracked, ofSession_of_nothing hcandidates htracked⟩
  · have hadvance := s.canAdvanceTo_run more
    exact ⟨Phase.rank_le_of_canAdvanceTo hadvance, Phase.eq_of_canAdvanceTo hadvance⟩

/-- A candidate for the samples. -/
def sampleCandidate : Candidate := ⟨"x", ⟨0, 4, 0, 5⟩⟩

/-- A session takes its candidates, records a value, is refused to go back, and fails. -/
def sampleOperations : List Operation :=
  [.advance .configuring, .setCandidates [sampleCandidate], .advance .tracing, .record "x" ⟨"1"⟩,
    .advance .idle, .fail, .advance .failed, .record "x" ⟨"2"⟩]

theorem failed_holds_nothing_sample :
    (start 1 ⟨[]⟩ ⟨[]⟩ 0).areOrderly sampleOperations = true ∧
    ((start 1 ⟨[]⟩ ⟨[]⟩ 0).run sampleOperations).phase = .failed ∧
    TraceResult.ofSession ((start 1 ⟨[]⟩ ⟨[]⟩ 0).run sampleOperations) 1 = ⟨[], [], 1⟩ := by
  have horderly : (start 1 ⟨[]⟩ ⟨[]⟩ 0).areOrderly sampleOperations = true := by decide
  have hfailed : ((start 1 ⟨[]⟩ ⟨[]⟩ 0).run sampleOperations).phase = .failed := by decide
  exact ⟨horderly, hfailed,
    ((failed_holds_nothing 1 ⟨[]⟩ ⟨[]⟩ 0 sampleOperations).1 horderly hfailed).2.2 1⟩

/-- A session that is advanced to the failed phase after it took its candidates keeps them with all
their values, and its result is not empty. -/
theorem advanced_to_failed_keeps :
    let s := (start 1 ⟨[]⟩ ⟨[]⟩ 0).run
      [.setCandidates [sampleCandidate], .record "x" ⟨"1"⟩, .advance .failed]
    s.phase = .failed ∧ s.candidates = [sampleCandidate] ∧
    (TraceResult.ofSession s 1).records = [⟨"1", ⟨0, 4, 0, 5⟩⟩] := by
  decide

end Session

end ValueTrace
