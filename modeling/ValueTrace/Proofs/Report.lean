import Mathlib.Algebra.GroupWithZero.Nat
import ValueTrace.Proofs.Session.Results

/-!
# The lines of a report

The text of a result shows every value of every expression at each of its places and ends a line
after each of them, until it breaks off at a place that cannot be shown.  The values and the texts
of expressions are written as they are, so the line ends that occur in them are line ends of the
text as well.  A value is therefore on a line of its own exactly if neither it nor its expression
has a line end (`Report.lines_are_values_and_their_breaks`).  The source of a function, which is
what the debuggee reports for it, often has one (`Report.value_with_line_end_is_split`).

## Main definitions

* `Report.shown` : the values that a result shows, with their expressions and places.
* `Report.breaks` : the number of line ends in a text.
* `Report.LinePerValue` : the lines of a text.

## Main results

* `Report.splitOn_eq_iff` : when a text is split where its lines were put together.
* `Report.lines_are_values_and_their_breaks` : the lines of the text of a result.
-/

namespace ValueTrace.Report

variable {file : FilePath} {r : TraceResult}

/-- The number of line ends in a text. -/
def breaks (text : String) : Nat := text.toList.count '\n'

/-- The values that a result shows, in the order of its entries, their places and their values. -/
def shown (r : TraceResult) : List (String × TraceRecord) :=
  r.expressions.flatMap fun e => e.readings.map fun t => (e.expression, t)

/-- The line ends in the expression and in the value of a line. -/
def breaksOf (reading : String × TraceRecord) : Nat := breaks reading.1 + breaks reading.2.message

/-! ### Lines -/

/-- A text has one part more than line ends. -/
theorem length_splitOn (text : List Char) :
    (text.splitOn '\n').length = text.count '\n' + 1 := by
  induction text with
  | nil => rfl
  | cons c text ih =>
    rw [List.splitOn_cons_eq_if_modifyHead, List.count_cons]
    split_ifs
    · rw [List.length_cons, ih]
    · rw [List.length_modifyHead, ih]

/-- Lines that have no line ends of their own are what the text is split into. -/
theorem splitOn_lines {lines : List (List Char)} (h : ∀ l ∈ lines, '\n' ∉ l) :
    (lines.flatMap fun l => l ++ ['\n']).splitOn '\n' = lines ++ [[]] := by
  induction lines with
  | nil => rfl
  | cons l lines ih =>
    obtain ⟨hl, hlines⟩ := List.forall_mem_cons.1 h
    rw [List.flatMap_cons, List.append_assoc, List.singleton_append,
      List.splitOn_append_cons_self_of_not_mem hl, ih hlines, List.cons_append]

theorem count_lines (lines : List (List Char)) :
    (lines.flatMap fun l => l ++ ['\n']).count '\n' =
      lines.length + (lines.map (List.count '\n')).sum := by
  induction lines with
  | nil => rfl
  | cons l lines ih =>
    rw [List.flatMap_cons, List.count_append, List.count_append, ih, List.length_cons,
      List.map_cons, List.sum_cons, List.count_singleton_self]
    omega

/-- A text is split where its lines were put together exactly if these have no other line ends. -/
theorem splitOn_eq_iff (lines : List (List Char)) :
    (lines.flatMap fun l => l ++ ['\n']).splitOn '\n' = lines ++ [[]] ↔
      ∀ l ∈ lines, '\n' ∉ l := by
  refine ⟨fun hsplit => ?_, splitOn_lines⟩
  -- There are as many line ends as lines, and each line has one already.
  have hlength := length_splitOn (lines.flatMap fun l => l ++ ['\n'])
  rw [hsplit, count_lines, List.length_append, List.length_singleton] at hlength
  have hsum : (lines.map (List.count '\n')).sum = 0 := by omega
  rw [List.sum_eq_zero_iff_forall_eq_nat, List.forall_mem_map] at hsum
  exact fun l hl => List.count_eq_zero.1 (hsum l hl)

/-! ### What is on a line -/

theorem breaks_append (text text' : String) :
    breaks (text ++ text') = breaks text + breaks text' := by
  rw [breaks, String.toList_append, List.count_append]
  rfl

/-- Digits end no line. -/
theorem breaks_toString (n : Nat) : breaks (toString n) = 0 := by
  refine List.count_eq_zero.2 fun hmem => ?_
  have hdigits : (toString n).toList = Nat.toDigits 10 n := by simp [toString, Nat.repr]
  rw [hdigits] at hmem
  exact absurd (Nat.isDigit_of_mem_toDigits (by decide) (by decide) hmem) (by decide)

/-- The line ends on a line are those of the file name, the expression and the value. -/
theorem breaks_line (file : FilePath) (reading : String × TraceRecord) :
    breaks (line file reading) = breaks file.text + breaksOf reading := by
  have hmarks : breaks ":" = 0 ∧ breaks " " = 0 ∧ breaks " = " = 0 := by decide
  simp only [line, startText, breaksOf, breaks_append, breaks_toString, hmarks]
  omega

theorem newline_not_mem_line_iff (hfile : '\n' ∉ file.text.toList)
    (reading : String × TraceRecord) :
    '\n' ∉ (line file reading).toList ↔ breaksOf reading = 0 := by
  have hnone : breaks file.text = 0 := List.count_eq_zero.2 hfile
  rw [← List.count_eq_zero, ← breaks, breaks_line, hnone, Nat.zero_add]

/-! ### The text of a result -/

/-- The lines of the text of a result. -/
structure LinePerValue (file : FilePath) (r : TraceResult) : Prop where
  /-- The text has the lines of the values in turn, each with its end, up to the first one whose
  place cannot be shown. -/
  text : (trace file r).toList =
    (showable (shown r)).flatMap fun reading => (line file reading).toList ++ ['\n']
  /-- It has the lines of all values if and only if all places can be shown. -/
  complete : showable (shown r) = shown r ↔ ∀ t ∈ r.records, Fits t.range
  /-- There is a value for each record. -/
  length : (shown r).length = r.records.length
  /-- The text has a line for each value, and another one for each line end in what is shown. -/
  lines : (trace file r).toList.count '\n' =
    (showable (shown r)).length + ((showable (shown r)).map breaksOf).sum
  /-- Each value is on a line of its own if and only if there are no such line ends. -/
  split : (trace file r).toList.splitOn '\n' =
      ((showable (shown r)).map fun reading => (line file reading).toList) ++ [[]] ↔
    ∀ reading ∈ showable (shown r), breaksOf reading = 0

theorem toList_trace (file : FilePath) (h : r.records ≠ []) :
    (trace file r).toList =
      (showable (shown r)).flatMap fun reading => (line file reading).toList ++ ['\n'] := by
  rw [trace_of_records h, written_traceLines, String.toList_join, List.flatMap_map]
  refine List.flatMap_congr fun reading _ => ?_
  rw [String.toList_append]
  rfl

/-- The text of the result of a session, which took candidates and then recorded values, goes
through the values in the order of the entries, and has all of them unless a place cannot be shown.
It has one line for each record and one more for each line end in the expressions and values that it
shows, and so it has one line for each value exactly if there are none. -/
theorem lines_are_values_and_their_breaks (file : FilePath) (s : Session)
    (candidates : List Candidate) (log : List (String × ValueRecord)) (pauses : Nat)
    (hfile : '\n' ∉ file.text.toList)
    (hrecords : (TraceResult.ofSession (s.recorded candidates log) pauses).records ≠ []) :
    LinePerValue file (TraceResult.ofSession (s.recorded candidates log) pauses) := by
  have hperm : ((shown (TraceResult.ofSession (s.recorded candidates log) pauses)).map
      Prod.snd).Perm (TraceResult.ofSession (s.recorded candidates log) pauses).records := by
    rw [TraceResult.records_eq]
    exact (TraceResult.perm_readings candidates log s pauses).map Prod.snd
  generalize TraceResult.ofSession (s.recorded candidates log) pauses = r at hrecords hperm ⊢
  have htext := toList_trace file hrecords
  have hlines : (trace file r).toList = ((showable (shown r)).map fun reading =>
      (line file reading).toList).flatMap fun l => l ++ ['\n'] := by
    rw [htext, List.flatMap_map]
  have hbreaks : (((showable (shown r)).map fun reading => (line file reading).toList).map
      (List.count '\n')) = (showable (shown r)).map breaksOf := by
    have hnone : breaks file.text = 0 := List.count_eq_zero.2 hfile
    rw [List.map_map]
    refine List.map_congr_left fun reading _ => ?_
    rw [Function.comp_apply, ← breaks, breaks_line, hnone, Nat.zero_add]
  refine ⟨htext, ?_, ?_, ?_, ?_⟩
  · rw [showable_eq_self_iff]
    simp only [← hperm.mem_iff, List.forall_mem_map]
  · rw [← hperm.length_eq, List.length_map]
  · rw [hlines, count_lines, hbreaks, List.length_map]
  · rw [hlines, splitOn_eq_iff, List.forall_mem_map]
    exact forall₂_congr fun reading _ => newline_not_mem_line_iff hfile reading

/-- The file of the samples. -/
def sampleFile : FilePath := .ofText "f.js"

/-- A session that finds a variable at two places and records two values of it. -/
def sampleValues : Session :=
  (Session.start 1 sampleFile ⟨[]⟩ 2).recorded [⟨"x", ⟨0, 4, 0, 5⟩⟩, ⟨"x", ⟨1, 10, 1, 11⟩⟩]
    [("x", ⟨"1"⟩), ("x", ⟨"[a]"⟩)]

/-- Two values at two places are four lines. -/
theorem lines_are_values_and_their_breaks_sample :
    let r := TraceResult.ofSession sampleValues 2
    '\n' ∉ sampleFile.text.toList ∧ r.records ≠ [] ∧
    (trace sampleFile r).toList.splitOn '\n' =
      ["f.js:1:5 x = 1", "f.js:1:5 x = [a]", "f.js:2:11 x = 1", "f.js:2:11 x = [a]", ""].map
        String.toList := by
  have hfile : '\n' ∉ sampleFile.text.toList := by decide +kernel
  have hrecords : (TraceResult.ofSession sampleValues 2).records ≠ [] := by decide +kernel
  have hlines := lines_are_values_and_their_breaks sampleFile _ _ _ 2 hfile hrecords
  exact ⟨hfile, hrecords, (hlines.split.2 (by decide +kernel)).trans (by decide +kernel)⟩

/-- A session that finds a function at one place and records its source. -/
def sampleFunction : Session :=
  (Session.start 1 sampleFile ⟨[]⟩ 0).recorded [⟨"f", ⟨0, 9, 0, 10⟩⟩]
    [("f", ⟨"function f() \x7b\n\x7d"⟩)]

/-- The source of a function that has two lines makes two lines of one record. -/
theorem value_with_line_end_is_split :
    let r := TraceResult.ofSession sampleFunction 1
    r.records.length = 1 ∧ (trace sampleFile r).toList.count '\n' = 2 ∧
    (trace sampleFile r).toList.splitOn '\n' =
      ["f.js:1:10 f = function f() \x7b", "\x7d", ""].map String.toList ∧
    (trace sampleFile r).toList.splitOn '\n' ≠
      ((shown r).map fun reading => (line sampleFile reading).toList) ++ [[]] := by
  decide +kernel

end ValueTrace.Report
