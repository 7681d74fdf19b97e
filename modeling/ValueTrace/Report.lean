import ValueTrace.Json.Printer
import ValueTrace.Session.Result

/-!
# Reports

Results and candidates for a terminal: lines of text with lines and columns from 1, or indented
JSON with ranges as they are.

The text adds one to lines and columns in 32 bits.  Where there is no room for this, a line cannot
be put together, and writing breaks off before it.

## Main definitions

* `Report.oneBased?` : a coordinate that counts from 1.
* `Report.written` : what is written of some lines.
* `Report.trace`, `Report.candidates` : what is written of a result and of candidates.
* `Report.json` : a list as JSON.
-/

namespace ValueTrace.Report

open Json (Value)

/-- A coordinate as editors show it.  There is none for the last one of 32 bits. -/
def oneBased? (n : UInt32) : Option String :=
  if n.toNat + 1 < UInt32.size then some (toString (n.toNat + 1)) else none

/-- The place where a range begins. -/
def place? (file : FilePath) (r : SourceRange) : Option String := do
  let line ← oneBased? r.startLine
  let column ← oneBased? r.startColumn
  return file.text ++ ":" ++ line ++ ":" ++ column

/-- The line of a recorded value. -/
def traceLine? (file : FilePath) (expression : String) (r : SourceRange) (v : ValueRecord) :
    Option String := do
  let place ← place? file r
  return place ++ " " ++ expression ++ " = " ++ v.text ++ "\n"

/-- The lines of an expression: at every place all its values. -/
def expressionLines (file : FilePath) (e : ExpressionTrace) : List (Option String) :=
  e.ranges.flatMap fun r => e.values.map fun v => traceLine? file e.expression r v

/-- What is written when there is no record. -/
def nothing : String := "No values recorded\n"

/-- The lines of a result. -/
def traceLines (file : FilePath) (result : TraceResult) : List (Option String) :=
  if result.isEmpty then [some nothing]
  else result.expressions.flatMap (expressionLines file)

/-- The line of a candidate. -/
def candidateLine? (file : FilePath) (c : Candidate) : Option String := do
  let place ← place? file c.range
  return place ++ " " ++ c.expression ++ "\n"

/-- The lines of candidates. -/
def candidateLines (file : FilePath) (cs : List Candidate) : List (Option String) :=
  cs.map (candidateLine? file)

/-- What is written of some lines, which is nothing from the first one on that cannot be put
together. -/
def written : List (Option String) → String
  | some line :: rest => line ++ written rest
  | none :: _ | [] => ""

/-- What is written of a result as text. -/
def trace (file : FilePath) (result : TraceResult) : String := written (traceLines file result)

/-- What is written of candidates as text. -/
def candidates (file : FilePath) (cs : List Candidate) : String :=
  written (candidateLines file cs)

/-- A list as an indented JSON document on lines of its own. -/
def json (items : List Value) : String := (Value.array items).indented ++ "\n"

end ValueTrace.Report
