import ValueTrace.Scope.Candidate

/-!
# Value histories

The expressions that are traced, in the order they were first found, each with the values recorded
for it.  An expression that occurs at several places has one history.

## Main definitions

* `ValueRecord` : a recorded value, or the mark of a value that could not be determined.
* `TrackedExpressions` : the table, with `track`, `record`, `clear`, `history?` and `ofCandidates`.
-/

namespace ValueTrace

/-- The text recorded for a value. -/
structure ValueRecord where
  text : String
deriving DecidableEq, Repr

namespace ValueRecord

/-- What is recorded for a value that could not be determined. -/
def undetermined : ValueRecord := ⟨"undetermined"⟩

/-- Whether the record is the mark of an undetermined value. -/
def isUndetermined (r : ValueRecord) : Bool := r = undetermined

end ValueRecord

/-- Expressions in the order they were first tracked, with their values in order. -/
structure TrackedExpressions where
  entries : List (String × List ValueRecord)
deriving DecidableEq, Repr

namespace TrackedExpressions

/-- No expressions. -/
def empty : TrackedExpressions := ⟨[]⟩

/-- The expressions in the order they were first tracked. -/
def expressions (t : TrackedExpressions) : List String := t.entries.map Prod.fst

/-- The values recorded for an expression, if it is tracked. -/
def history? (t : TrackedExpressions) (expression : String) : Option (List ValueRecord) :=
  Json.findMember expression t.entries

/-- Tracks an expression from now on, and says whether it was not tracked before.  One that is
tracked already keeps its values. -/
def track (t : TrackedExpressions) (expression : String) : TrackedExpressions × Bool :=
  match t.history? expression with
  | some _ => (t, false)
  | none => (⟨t.entries ++ [(expression, [])]⟩, true)

/-- The entries with a value appended to the first history of an expression. -/
def append (expression : String) (value : ValueRecord) :
    List (String × List ValueRecord) → List (String × List ValueRecord)
  | [] => []
  | (e, values) :: rest =>
    if e = expression then (e, values ++ [value]) :: rest
    else (e, values) :: append expression value rest

/-- Appends a value to the history of an expression, and says whether the expression is tracked;
if it is not, nothing changes. -/
def record (t : TrackedExpressions) (expression : String) (value : ValueRecord) :
    TrackedExpressions × Bool :=
  match t.history? expression with
  | some _ => (⟨append expression value t.entries⟩, true)
  | none => (t, false)

/-- Drops every expression together with its history. -/
def clear (_ : TrackedExpressions) : TrackedExpressions := empty

/-- The expressions of candidates, without any value yet. -/
def ofCandidates (candidates : List Candidate) : TrackedExpressions :=
  candidates.foldl (fun t c => (t.track c.expression).1) empty

end TrackedExpressions

end ValueTrace
