import ValueTrace.Scope.Candidate
import ValueTrace.Tree.Reader

/-!
# Scope analysis

Which expressions of a program are visible from the start of a scope and lie above the cursor.  The
walk visits nodes in source order with a stack of nodes still to be visited.  An identifier or a
member access is looked at as a whole: nothing inside it is visited, whether or not it qualifies.

## Main definitions

* `qualifies` : which places lie in the scope and above the cursor.
* `walk` : the candidates among the nodes of a stack.
* `Program.candidates` : the candidates of a program.
-/

namespace ValueTrace

mutual

/-- The number of nodes of a tree. -/
def Node.size : Node → Nat
  | .member object property _ _ => object.size + property.size + 1
  | .other _ _ children => nodesSize children + 1
  | _ => 1

/-- The number of nodes of several trees. -/
def nodesSize : List Node → Nat
  | [] => 0
  | n :: rest => n.size + nodesSize rest

end

theorem nodesSize_append (a b : List Node) : nodesSize (a ++ b) = nodesSize a + nodesSize b := by
  induction a with
  | nil => simp [nodesSize]
  | cons n rest ih => simp [nodesSize, ih]; omega

namespace Scope

/-- Whether a place starts at or after the start of the scope and ends on a line before the cursor,
which counts lines from 0. -/
def qualifies (l : SourceLocation) (scope : ScopeStart) (cursor : UInt32) : Bool :=
  let startLine := previousLine l.start.line
  (startLine > scope.line || startLine == scope.line && l.start.column ≥ scope.column)
    && previousLine l.stop.line < cursor

/-- The candidate that a node is, if its place qualifies. -/
def candidate? (n : Node) (l : SourceLocation) (scope : ScopeStart) (cursor : UInt32) :
    List Candidate :=
  if qualifies l scope cursor then [⟨n.render, .ofLocation l⟩] else []

/-- The candidates among the nodes of a stack, top first. -/
def walk (scope : ScopeStart) (cursor : UInt32) (stack : List Node) : List Candidate :=
  match stack with
  | [] => []
  | .identifier name l :: stack =>
    candidate? (.identifier name l) l scope cursor ++ walk scope cursor stack
  | .member object property computed l :: stack =>
    candidate? (.member object property computed l) l scope cursor ++ walk scope cursor stack
  | .literal _ _ :: stack => walk scope cursor stack
  | .other _ _ children :: stack => walk scope cursor (children ++ stack)
termination_by nodesSize stack
decreasing_by
  all_goals simp only [nodesSize, Node.size, nodesSize_append]
  all_goals omega

end Scope

/-- The expressions of a program that are visible from the start of a scope and end above the
cursor line, in source order. -/
def Program.candidates (p : Program) (scope : ScopeStart) (cursor : UInt32) : List Candidate :=
  Scope.walk scope cursor [p.root]

end ValueTrace
