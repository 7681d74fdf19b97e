import Mathlib.Data.List.ReduceOption
import Mathlib.Data.List.TakeWhile
import ValueTrace.Report

/-!
# The lines that can be shown

A line of a report names a place from 1 on.  It can be put together if there is room for one more
line and one more column in 32 bits where its range begins (`Report.Fits`), and a report consists of
the lines before the first one that cannot (`Report.written_eq`).

## Main definitions

* `Report.Fits` : the place where a range begins can be shown.
* `Report.line` : the line of a value, without its end.
* `Report.showable` : the values before the first one whose place cannot be shown.

## Main results

* `Report.traceLine?_eq` : the line of a value, if its place can be shown.
* `Report.written_traceLines` : what is written of some values.
-/

namespace ValueTrace.Report

variable {file : FilePath}

/-! ### Places -/

/-- Where a range begins, there is room for one more line and one more column in 32 bits. -/
def Fits (range : SourceRange) : Prop :=
  range.startLine.toNat + 1 < UInt32.size ∧ range.startColumn.toNat + 1 < UInt32.size

instance : DecidablePred Fits := fun range =>
  inferInstanceAs (Decidable (range.startLine.toNat + 1 < UInt32.size ∧
    range.startColumn.toNat + 1 < UInt32.size))

/-- The place where a range begins, with lines and columns from 1. -/
def startText (file : FilePath) (range : SourceRange) : String :=
  file.text ++ ":" ++ toString (range.startLine.toNat + 1) ++ ":" ++
    toString (range.startColumn.toNat + 1)

/-- The line of a value, without its end: the place, the expression and the value. -/
def line (file : FilePath) (reading : String × TraceRecord) : String :=
  startText file reading.2.range ++ " " ++ reading.1 ++ " = " ++ reading.2.message

/-- A coordinate is shown as one more, if this fits in 32 bits. -/
theorem oneBased?_of_fits {n : UInt32} (h : n.toNat + 1 < UInt32.size) :
    oneBased? n = some (toString (n.toNat + 1)) := if_pos h

/-- The last coordinate of 32 bits is not shown. -/
theorem oneBased?_last {n : UInt32} (h : n.toNat + 1 = UInt32.size) : oneBased? n = none :=
  if_neg (by omega)

theorem place?_eq (file : FilePath) (range : SourceRange) :
    place? file range = if Fits range then some (startText file range) else none := by
  by_cases hline : range.startLine.toNat + 1 < UInt32.size
  · by_cases hcolumn : range.startColumn.toNat + 1 < UInt32.size
    · rw [if_pos ⟨hline, hcolumn⟩, place?, oneBased?_of_fits hline, oneBased?_of_fits hcolumn]
      rfl
    · have hnone : oneBased? range.startColumn = none := if_neg hcolumn
      rw [if_neg fun h => hcolumn h.2, place?, oneBased?_of_fits hline, hnone]
      rfl
  · have hnone : oneBased? range.startLine = none := if_neg hline
    rw [if_neg fun h => hline h.1, place?, hnone]
    rfl

/-- The line of a value, if its place can be shown. -/
theorem traceLine?_eq (file : FilePath) (reading : String × TraceRecord) :
    traceLine? file reading.1 reading.2.range ⟨reading.2.message⟩ =
      if Fits reading.2.range then some (line file reading ++ "\n") else none := by
  rw [traceLine?, place?_eq]
  split <;> rfl

/-! ### What is written -/

/-- The lines before the first one that cannot be put together are written. -/
theorem written_eq (lines : List (Option String)) :
    written lines = String.join (lines.takeWhile Option.isSome).reduceOption := by
  induction lines with
  | nil => rfl
  | cons text lines ih =>
    cases text with
    | none => rfl
    | some text =>
      rw [written, ih, List.takeWhile_cons_of_pos rfl, List.reduceOption_cons_of_some,
        String.join_cons]

/-- The values before the first one whose place cannot be shown. -/
def showable (readings : List (String × TraceRecord)) : List (String × TraceRecord) :=
  readings.takeWhile fun reading => Fits reading.2.range

theorem showable_eq_self_iff {readings : List (String × TraceRecord)} :
    showable readings = readings ↔ ∀ reading ∈ readings, Fits reading.2.range := by
  simp only [showable, List.takeWhile_eq_self_iff, decide_eq_true_eq]

/-- Of some values, those before the first one whose place cannot be shown are written. -/
theorem written_traceLines (file : FilePath) (readings : List (String × TraceRecord)) :
    written (readings.map fun reading =>
        traceLine? file reading.1 reading.2.range ⟨reading.2.message⟩) =
      String.join ((showable readings).map fun reading => line file reading ++ "\n") := by
  induction readings with
  | nil => rfl
  | cons reading readings ih =>
    rw [List.map_cons, traceLine?_eq, showable, List.takeWhile_cons]
    by_cases hfits : Fits reading.2.range
    · rw [if_pos hfits, if_pos (decide_eq_true hfits), written, ih, List.map_cons,
        String.join_cons]
      rfl
    · rw [if_neg hfits, if_neg (by rwa [decide_eq_true_eq])]
      rfl

end ValueTrace.Report
