import ValueTrace.Scope.Tracked
import ValueTrace.Session.Failure

/-!
# Pauses

What the engine needs to know about a halted debuggee, and the value recorded for an expression
that was evaluated there.

## Main definitions

* `Pause`, `Pause.ofEvent?` : a pause as its notification reports it.
* `Pause.hits` : whether a breakpoint caused a pause.
* `Evaluation.record` : the value recorded for an evaluation.
-/

namespace ValueTrace

open Inspector (Evaluation Location PausedEvent)

/-- Where a scope begins; a scope without a location is the whole file. -/
def ScopeStart.ofLocation (l : Option Location) : ScopeStart :=
  match l with
  | some l => ⟨l.line, l.column.getD 0⟩
  | none => .top

/-- A halted debuggee. -/
structure Pause where
  /-- The top call frame, valid until the debuggee resumes. -/
  callFrameId : String
  /-- Where the innermost scope of the top call frame begins. -/
  scopeStart : ScopeStart
  reason : String
  hitBreakpoints : List String
deriving DecidableEq, Repr

namespace Pause

/-- The pause that a notification reports, which must name a call frame. -/
def ofEvent? (event : PausedEvent) : Except SessionError Pause :=
  match event.callFrames with
  | frame :: _ =>
    .ok ⟨frame.id, .ofLocation (frame.scopes.head?.bind fun scope => scope.start), event.reason,
      event.hitBreakpoints⟩
  | [] => .error (.unexpected "pause reported no call frames")

/-- Whether the given breakpoint caused the pause. -/
def hits (p : Pause) (breakpointId : Option String) : Bool :=
  match breakpointId with
  | some id => p.hitBreakpoints.contains id
  | none => false

end Pause

/-- The value recorded for an evaluation.  One that threw, or whose result has no text, is
undetermined. -/
def Inspector.Evaluation.record (e : Evaluation) : ValueRecord :=
  match e.exception, e.result.display? with
  | none, some text => ⟨text⟩
  | _, _ => .undetermined

end ValueTrace
