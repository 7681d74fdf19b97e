import ValueTrace.Session.Basic

/-!
# Results of a session

The values of a finished session in two shapes: one record for each candidate and value, and the
histories grouped by expression.

## Main definitions

* `TraceRecord`, `ExpressionTrace`, `TraceResult` : the shapes.
* `TraceResult.ofSession` : the result of a session.
* `TraceResult.decoder`, `TraceRecord.value` : the shapes as JSON.
-/

namespace ValueTrace

open Json (Value Decoder Record)

/-- A recorded value at one place. -/
structure TraceRecord where
  message : String
  range : SourceRange
deriving DecidableEq, Repr

/-- The history of an expression with all its places. -/
structure ExpressionTrace where
  expression : String
  ranges : List SourceRange
  values : List ValueRecord
deriving DecidableEq, Repr

/-- What a session recorded. -/
structure TraceResult where
  records : List TraceRecord
  expressions : List ExpressionTrace
  /-- The number of pauses at which expressions were evaluated. -/
  pauses : Nat
deriving DecidableEq, Repr

/-- Reads a record. -/
def TraceRecord.decoder : Decoder TraceRecord :=
  Record.make TraceRecord.mk
    |>.required "message" Decoder.text
    |>.required "range" SourceRange.decoder
    |>.decoder "TraceRecord"

/-- A record as JSON. -/
def TraceRecord.value (r : TraceRecord) : Value :=
  .object [("message", .string r.message), ("range", r.range.value)]

/-- Reads a history. -/
def ExpressionTrace.decoder : Decoder ExpressionTrace :=
  Record.make ExpressionTrace.mk
    |>.required "expression" Decoder.text
    |>.required "ranges" (Decoder.list SourceRange.decoder)
    |>.required "values" (Decoder.list (Decoder.text.map ValueRecord.mk))
    |>.decoder "ExpressionTrace"

namespace TraceResult

/-- Reads a result. -/
def decoder : Decoder TraceResult :=
  Record.make TraceResult.mk
    |>.required "records" (Decoder.list TraceRecord.decoder)
    |>.required "expressions" (Decoder.list ExpressionTrace.decoder)
    |>.required "pauses" Decoder.size
    |>.decoder "TraceResult"

/-- Nothing was recorded. -/
def empty : TraceResult := ⟨[], [], 0⟩

/-- Whether there is no record. -/
def isEmpty (r : TraceResult) : Bool := r.records.isEmpty

/-- The records of a candidate: its history, each value at its place. -/
def recordsOf (tracked : TrackedExpressions) (c : Candidate) : List TraceRecord :=
  ((tracked.history? c.expression).getD []).map fun value => ⟨value.text, c.range⟩

/-- The places of an expression among candidates. -/
def rangesOf (candidates : List Candidate) (expression : String) : List SourceRange :=
  (candidates.filter fun c => c.expression = expression).map Candidate.range

/-- The result of a session after the given number of pauses. -/
def ofSession (s : Session) (pauses : Nat) : TraceResult where
  records := s.candidates.flatMap (recordsOf s.tracked)
  expressions := s.tracked.entries.map fun (expression, values) =>
    ⟨expression, rangesOf s.candidates expression, values⟩
  pauses := pauses

end TraceResult

end ValueTrace
