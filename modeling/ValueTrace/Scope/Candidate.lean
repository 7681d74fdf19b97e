import ValueTrace.Json.Decode
import ValueTrace.Tree.Basic

/-!
# Candidates for tracing

A candidate is the text of an expression together with the place it was found at.  Places are
ranges with lines and columns from 0, as editors count them.

## Main definitions

* `ScopeStart` : where a lexical scope begins, ordered by line and then column.
* `SourceRange`, `Candidate` : places and expressions.
* `SourceRange.decoder`, `Candidate.decoder` and their `value` functions : the two as JSON.
-/

namespace ValueTrace

open Json (Value Decoder Record)

/-- Where a lexical scope begins, with line and column from 0. -/
structure ScopeStart where
  line : UInt32
  column : UInt32
deriving DecidableEq, Repr

/-- The top of a file. -/
def ScopeStart.top : ScopeStart := ⟨0, 0⟩

/-- A range of source text with lines and columns from 0. -/
structure SourceRange where
  startLine : UInt32
  startColumn : UInt32
  endLine : UInt32
  endColumn : UInt32
deriving DecidableEq, Repr

/-- The line before a line that counts from 1; the first line stays. -/
def previousLine (line : UInt32) : UInt32 := if line = 0 then 0 else line - 1

/-- The range of a source location. -/
def SourceRange.ofLocation (l : SourceLocation) : SourceRange :=
  ⟨previousLine l.start.line, l.start.column, previousLine l.stop.line, l.stop.column⟩

/-- An expression that may be traced, and where it occurs. -/
structure Candidate where
  expression : String
  range : SourceRange
deriving DecidableEq, Repr

/-- Reads a range. -/
def SourceRange.decoder : Decoder SourceRange :=
  Record.make SourceRange.mk
    |>.required "startLine" Decoder.uint32
    |>.required "startColumn" Decoder.uint32
    |>.required "endLine" Decoder.uint32
    |>.required "endColumn" Decoder.uint32
    |>.decoder "SourceRange"

/-- A range as JSON. -/
def SourceRange.value (r : SourceRange) : Value :=
  .object [("startLine", .ofNat r.startLine.toNat), ("startColumn", .ofNat r.startColumn.toNat),
    ("endLine", .ofNat r.endLine.toNat), ("endColumn", .ofNat r.endColumn.toNat)]

/-- Reads a candidate. -/
def Candidate.decoder : Decoder Candidate :=
  Record.make Candidate.mk
    |>.required "expression" Decoder.text
    |>.required "range" SourceRange.decoder
    |>.decoder "Candidate"

/-- A candidate as JSON. -/
def Candidate.value (c : Candidate) : Value :=
  .object [("expression", .string c.expression), ("range", c.range.value)]

end ValueTrace
