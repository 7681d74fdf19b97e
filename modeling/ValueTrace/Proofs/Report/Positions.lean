import ValueTrace.CommandLine.Run
import ValueTrace.Proofs.Report
import ValueTrace.Proofs.Tree.Parts

/-!
# The positions that a report of candidates shows

The document gives lines from 1 and columns from 0, a range has both from 0, and the text has both
from 1.  On the way the reader refuses a coordinate that does not fit in 32 bits, the range keeps a
line 0 at the first line, and the text adds one in 32 bits.  A line has come down by one before, so
it is shown as the document gives it; only a line 0 is shown as 1.  A column has not, and there is
no line for the last column of 32 bits, where writing the text breaks down
(`Report.lines_show_starts`, `Report.last_column_is_not_shown`).

## Main definitions

* `Report.IsNodeOf` : the node that a candidate was made from, and the part of the document that
  describes it.
* `Report.lineAt` : the line of an expression at a place that counts from 1.
* `Report.ShowsStart` : what the line of a candidate shows.

## Main results

* `Report.lines_show_starts` : the lines of the candidates of a document.
-/

namespace ValueTrace.Report

open Json (Value findMember)

/-- A candidate was made from a node of a program, which begins at a line and a column of the
document. -/
structure IsNodeOf (v : Value) (p : Program) (c : Candidate) (n : Node) (line column : Nat) :
    Prop where
  /-- The candidate has the text and the location of a node of the program. -/
  described : ∃ a l, p.root.at? a = some n ∧ n.reference? = some l ∧ c.Describes n l
  /-- This node is what a part of the document describes, and the location begins there. -/
  part : ∃ path members, Leads v path (.object members) ∧
    Tree.descend path (.object members) = .ok n ∧
    findMember "type" members = some (.string n.kind) ∧ Tree.StartsAt members line column
  line_lt : line < UInt32.size
  column_lt : column < UInt32.size

/-- The line of an expression at a place that counts from 1. -/
def lineAt (file : FilePath) (line column : Nat) (expression : String) : String :=
  file.text ++ ":" ++ toString line ++ ":" ++ toString column ++ " " ++ expression ++ "\n"

/-- The line shows an expression where it begins, in the first line if the document gives line 0. -/
structure ShowsStart (file : FilePath) (line column : Nat) (expression : String)
    (text : Option String) : Prop where
  /-- The column counts from 1. -/
  exact : column + 1 < UInt32.size →
    text = some (lineAt file (max 1 line) (column + 1) expression)
  /-- The last column leaves no room for this in 32 bits. -/
  last : column + 1 = UInt32.size → text = none

/-! ### Coordinates -/

/-- A line comes back as the document gives it, and never leaves the 32 bits on the way. -/
theorem oneBased?_of_previous {n line : UInt32} (h : n.toNat = line.toNat - 1) :
    oneBased? n = some (toString (max 1 line.toNat)) := by
  have hfits : n.toNat + 1 < UInt32.size := by
    have := line.toNat_lt_size
    have : 1 < UInt32.size := by decide
    omega
  have hline : n.toNat + 1 = max 1 line.toNat := by omega
  rw [oneBased?_of_fits hfits, hline]

/-! ### Lines -/

variable {v : Value} {p : Program} {c : Candidate} {n : Node} {l : SourceLocation}

/-- The line of a candidate shows where its node begins. -/
theorem showsStart_of_describes (file : FilePath) (h : c.Describes n l) :
    ShowsStart file l.start.line.toNat l.start.column.toNat c.expression
      (candidateLine? file c) := by
  have hline := oneBased?_of_previous h.startLine
  constructor
  · intro hfits
    rw [candidateLine?, place?, hline, h.startColumn, oneBased?_of_fits hfits]
    rfl
  · intro hlast
    rw [candidateLine?, place?, hline, h.startColumn, oneBased?_last hlast]
    rfl

/-- The line of a candidate can be put together unless its node begins in the last column. -/
theorem isSome_candidateLine?_iff (file : FilePath) (h : c.Describes n l) :
    (candidateLine? file c).isSome ↔ c.range.startColumn.toNat + 1 < UInt32.size := by
  have hshows := showsStart_of_describes file h
  rw [h.startColumn]
  by_cases hfits : l.start.column.toNat + 1 < UInt32.size
  · simp [hshows.exact hfits, hfits]
  · have hlast : l.start.column.toNat + 1 = UInt32.size := by
      have := l.start.column.toNat_lt_size
      omega
    simp [hshows.last hlast, hlast]

/-- Every candidate of a document that was read was made from a node that a part of the document
describes. -/
theorem exists_node_of_candidate (h : Program.ofValue? v = .ok p) {scope : ScopeStart}
    {cursor : UInt32} (hc : c ∈ p.candidates scope cursor) :
    ∃ n l, IsNodeOf v p c n l.start.line.toNat l.start.column.toNat ∧ c.Describes n l := by
  have hroot : Node.ofValue? v = .ok p.root := by
    unfold Program.ofValue? at h
    split at h
    · rename_i root hroot
      rw [hroot, ← Except.ok.inj h]
    · cases h
  rw [candidates_eq] at hc
  obtain ⟨⟨a, c⟩, hfound, rfl⟩ := List.mem_map.1 (List.mem_of_mem_filter hc)
  obtain ⟨n, l, hn, hl, -, rfl⟩ := Node.mem_references_iff.1 hfound
  have hdescribes := Candidate.describes_mk n l
  -- The location is that of the node, and the node has it from its part.
  obtain ⟨path, w, hleads, hread⟩ := Tree.exists_part hroot hn
  obtain ⟨members, rfl, htype, hstart⟩ := Tree.exists_startsAt hread hl
  exact ⟨n, l, ⟨⟨a, l, hn, hl, hdescribes⟩, ⟨path, members, hleads, hread, htype, hstart⟩,
    l.start.line.toNat_lt_size, l.start.column.toNat_lt_size⟩, hdescribes⟩

/-- The candidates of a document have one line each.  It shows the expression and where the document
says that it begins: the line as it is, and the column, which the document counts from 0, from 1.
For the last column of 32 bits there is no such line.  The text has the lines before the first
candidate there, and it is written to the end if and only if there is no candidate there. -/
theorem lines_show_starts (h : Program.ofValue? v = .ok p) (file : FilePath) (scope : ScopeStart)
    (cursor : UInt32) :
    let found := p.candidates scope cursor
    List.Forall₂ (fun c text => ∃ n line column, IsNodeOf v p c n line column ∧
        ShowsStart file line column n.render text) found (candidateLines file found) ∧
    candidates file found =
      String.join ((candidateLines file found).takeWhile Option.isSome).reduceOption ∧
    ((CommandLine.Outcome.printed (candidateLines file found)).exitCode = 0 ↔
      ∀ c ∈ found, c.range.startColumn.toNat + 1 < UInt32.size) := by
  intro found
  refine ⟨?_, written_eq _, ?_⟩
  · rw [candidateLines, List.forall₂_map_right_iff, List.forall₂_same]
    intro c hc
    obtain ⟨n, l, hnode, hdescribes⟩ := exists_node_of_candidate h hc
    refine ⟨n, _, _, hnode, ?_⟩
    rw [← hdescribes.expression]
    exact showsStart_of_describes file hdescribes
  · have hexit : (CommandLine.Outcome.printed (candidateLines file found)).exitCode = 0 ↔
        ∀ text ∈ candidateLines file found, text.isSome := by
      rw [CommandLine.Outcome.printed, ← List.all_eq_true]
      split <;> simp_all
    rw [hexit, candidateLines, List.forall_mem_map]
    refine forall₂_congr fun c hc => ?_
    obtain ⟨n, l, -, hdescribes⟩ := exists_node_of_candidate h hc
    exact isSome_candidateLine?_iff file hdescribes

/-- A document that is one variable, which takes no room at its place. -/
def variableAt (line column : Nat) : Value :=
  let position : Value := .object [("line", .ofNat line), ("column", .ofNat column)]
  .object [("type", .string "Identifier"), ("name", .string "x"),
    ("loc", .object [("start", position), ("end", position)])]

/-- The program of this document. -/
def variableProgram (line column : UInt32) : Program :=
  ⟨.identifier "x" ⟨⟨line, column⟩, ⟨line, column⟩⟩⟩

/-- Every place of 32 bits is read as it is written. -/
theorem ofValue?_variableAt (line column : UInt32) :
    Program.ofValue? (variableAt line.toNat column.toNat) = .ok (variableProgram line column) := by
  have hword (x : UInt32) : Tree.readWord (.ofNat x.toNat) = some x := by
    simp [Tree.readWord, Value.natural?, Value.ofNat, Json.Number.natural?, x.toNat_lt_size]
  have hread : Node.ofValue? (variableAt line.toNat column.toNat) =
      .ok (variableProgram line column).root := by
    rw [Node.ofValue?, Tree.run_visit_root, variableAt, Tree.descend_identifier rfl]
    simp [Tree.readIdentifier, findMember, Tree.readText, Tree.readLocation, Tree.readLocation?,
      Value.member?, Tree.readPosition, hword, bind, Except.bind, pure, Except.pure,
      variableProgram]
  rw [Program.ofValue?, hread]

theorem lines_show_starts_sample :
    let p := variableProgram 3 4
    let found := p.candidates ⟨0, 0⟩ 9
    Program.ofValue? (variableAt 3 4) = .ok p ∧
    candidates sampleFile found = "f.js:3:5 x\n" ∧
    List.Forall₂ (fun c text => ∃ n line column, IsNodeOf (variableAt 3 4) p c n line column ∧
        ShowsStart sampleFile line column n.render text) found
      (candidateLines sampleFile found) := by
  intro p found
  have hread : Program.ofValue? (variableAt 3 4) = .ok p := ofValue?_variableAt 3 4
  exact ⟨hread, by decide +kernel, (lines_show_starts hread sampleFile ⟨0, 0⟩ 9).1⟩

/-- There is no line for a variable in the last column of 32 bits, and writing it breaks down. -/
theorem last_column_is_not_shown :
    let p := variableProgram 1 4294967295
    let found := p.candidates ⟨0, 0⟩ 1
    Program.ofValue? (variableAt 1 4294967295) = .ok p ∧
    found = [⟨"x", ⟨0, 4294967295, 0, 4294967295⟩⟩] ∧
    candidateLines sampleFile found = [none] ∧
    CommandLine.Outcome.printed (candidateLines sampleFile found) = ⟨101, "", none⟩ ∧
    candidates sampleFile found ≠ lineAt sampleFile 1 (4294967295 + 1) "x" := by
  intro p found
  have hlines : candidateLines sampleFile found = [none] := by decide +kernel
  have htext : candidates sampleFile found = "" := by
    rw [candidates, hlines]
    rfl
  refine ⟨ofValue?_variableAt 1 4294967295, by decide +kernel, hlines, ?_, ?_⟩
  · rw [hlines]
    rfl
  · rw [htext]
    decide +kernel

end ValueTrace.Report
