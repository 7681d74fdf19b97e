import ValueTrace.Path.Url
import ValueTrace.Scope.Tracked
import ValueTrace.Session.Failure

/-!
# Sessions

A session is one run of the debuggee: its files, its one breakpoint and what was collected.  The
candidates are found once, and only then are expressions tracked.  A session that fails forgets
what it collected.

## Main definitions

* `TraceRequest` : what to trace.
* `Breakpoint` : the place where the debuggee halts.
* `Session`, with `advance`, `fail`, `setCandidates` and `record`.
-/

namespace ValueTrace

/-- What to trace. -/
structure TraceRequest where
  /-- The file that holds the breakpoint. -/
  target : FilePath
  /-- The file that is run. -/
  entry : FilePath
  workingDir : FilePath
  /-- The line of the cursor, from 0. -/
  line : UInt32
deriving DecidableEq, Repr

namespace TraceRequest

/-- Tracing a file by running it from its own directory. -/
def ofTarget (target : FilePath) (line : UInt32) : TraceRequest :=
  let dir : FilePath :=
    match target.parent? with
    | some parent => if parent.bytes.isEmpty then ⟨FilePath.dot⟩ else parent
    | none => ⟨FilePath.dot⟩
  ⟨target, target, dir, line⟩

/-- The request with another file to run. -/
def withEntry (r : TraceRequest) (entry : FilePath) : TraceRequest := { r with entry }

/-- The request with another working directory. -/
def withWorkingDir (r : TraceRequest) (workingDir : FilePath) : TraceRequest :=
  { r with workingDir }

end TraceRequest

/-- The place where the debuggee halts, with line and column from 0. -/
structure Breakpoint where
  url : String
  line : UInt32
  column : UInt32
deriving DecidableEq, Repr

/-- The breakpoint at the start of a line of a file. -/
def Breakpoint.at (path : FilePath) (line : UInt32) : Breakpoint := ⟨path.url, line, 0⟩

/-- A run of the debuggee. -/
structure Session where
  id : Nat
  target : FilePath
  workingDir : FilePath
  breakpoint : Breakpoint
  /-- The context that the debuggee announced. -/
  contextId : Option Int
  phase : Phase
  /-- The candidates, once they have been looked for. -/
  candidates? : Option (List Candidate)
  tracked : TrackedExpressions
deriving DecidableEq, Repr

namespace Session

/-- A session that has not begun. -/
def start (id : Nat) (target workingDir : FilePath) (line : UInt32) : Session :=
  ⟨id, target, workingDir, .at target line, none, .idle, none, .empty⟩

/-- Moves on to a phase, if that is not backwards and the session is not over. -/
def advance (s : Session) (next : Phase) : Except SessionError Session :=
  if s.phase.canAdvanceTo next then .ok { s with phase := next }
  else .error (.invalidPhase s.phase next)

/-- Ends the session as failed and forgets what it collected.  A session that is over stays as it
is. -/
def fail (s : Session) : Session :=
  if s.phase.isTerminal then s
  else { s with phase := .failed, candidates? := none, tracked := .empty }

/-- Whether the candidates have been looked for. -/
def isDiscovered (s : Session) : Bool := s.candidates?.isSome

/-- The candidates in the order they were found. -/
def candidates (s : Session) : List Candidate := s.candidates?.getD []

/-- Takes the candidates and tracks their expressions from now on. -/
def setCandidates (s : Session) (candidates : List Candidate) : Session :=
  { s with candidates? := some candidates, tracked := .ofCandidates candidates }

/-- Records a value of a tracked expression. -/
def record (s : Session) (expression : String) (value : ValueRecord) : Session :=
  { s with tracked := (s.tracked.record expression value).1 }

/-- Takes the context that the debuggee announced. -/
def withContext (s : Session) (id : Int) : Session := { s with contextId := some id }

end Session

end ValueTrace
