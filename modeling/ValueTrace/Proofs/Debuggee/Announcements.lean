import Mathlib.Data.List.TakeWhile
import ValueTrace.Debuggee.Launch
import ValueTrace.Proofs.Text.Utf8

/-!
# The endpoint that a debuggee announces

What a line announces is said without a search: the longest run of characters without white space
at the first place where the scheme is followed by such a character (`Endpoint.Announces`).  The
search along a line finds exactly this (`Endpoint.find_eq_some_iff`), also when the line keeps the
carriage return of its end, and the search along the diagnostic output finds it on the first line
that announces something (`endpoint_is_first_announced`).

## Main definitions

* `Endpoint.Opens`, `Endpoint.Announces` : where an address begins, and the address of a line.
* `Line`, `Line.written` : lines of text, and the bytes that they are written as.
* `Endpoint.FirstAnnounced` : the address that some lines announce.

## Main results

* `Endpoint.find_eq_some_iff` : the search along a line.
* `Endpoint.lines_written` : the lines are read as they were written.
* `endpoint_is_first_announced` : the endpoint of a debuggee.
-/

namespace ValueTrace

namespace Endpoint

/-! ### The address on a line -/

/-- After its front part a line goes on with the scheme and a character that is no white space. -/
def Opens (line front : List Char) : Prop :=
  ∃ c rest, line = front ++ scheme ++ c :: rest ∧ Text.isBlank c = false

/-- The address is the longest run without white space at the first place where a line has the
scheme followed by a character that is no white space. -/
def Announces (line endpoint : List Char) : Prop :=
  ∃ front back, line = front ++ endpoint ++ back ∧
    Opens line front ∧ (∀ other, Opens line other → front.length ≤ other.length) ∧
    (∀ c ∈ endpoint, Text.isBlank c = false) ∧ ∀ c ∈ back.head?, Text.isBlank c = true

/-- The characters before the first white space. -/
def word (line : List Char) : List Char := line.takeWhile fun c => !Text.isBlank c

theorem word_append {endpoint back : List Char} (hword : ∀ c ∈ endpoint, Text.isBlank c = false)
    (hback : ∀ c ∈ back.head?, Text.isBlank c = true) : word (endpoint ++ back) = endpoint := by
  rw [word, List.takeWhile_append_of_pos fun c hc => by simp [hword c hc]]
  cases back with
  | nil => simp
  | cons c back => simp [hback c rfl]

/-- Every line is a word and what follows it. -/
theorem exists_word (line : List Char) :
    ∃ back, line = word line ++ back ∧ (∀ c ∈ word line, Text.isBlank c = false) ∧
      ∀ c ∈ back.head?, Text.isBlank c = true := by
  refine ⟨line.dropWhile fun c => !Text.isBlank c, List.takeWhile_append_dropWhile.symm,
    fun c hc => ?_, fun c hc => ?_⟩
  · simpa using List.mem_takeWhile_imp hc
  · have hstop := List.head?_dropWhile_not (fun c => !Text.isBlank c) line
    rw [Option.mem_def.1 hc] at hstop
    simpa using hstop

theorem isBlank_of_mem_scheme (c : Char) (hc : c ∈ scheme) : Text.isBlank c = false := by
  have hall : (scheme.all fun c => !Text.isBlank c) = true := by decide
  simpa using List.all_eq_true.1 hall c hc

/-- A line opens with an address if its first word is longer than the scheme and begins with it. -/
theorem opens_nil_iff (line : List Char) :
    Opens line [] ↔ scheme.isPrefixOf (word line) ∧ scheme.length < (word line).length := by
  rw [List.isPrefixOf_iff_prefix]
  constructor
  · rintro ⟨c, rest, rfl, hc⟩
    have hword : word (scheme ++ c :: rest) = scheme ++ c :: word rest := by
      rw [word, List.takeWhile_append_of_pos fun c hc => by simp [isBlank_of_mem_scheme c hc],
        List.takeWhile_cons_of_pos (by simp [hc]), word]
    rw [List.nil_append, hword]
    exact ⟨List.prefix_append _ _, by simp⟩
  · rintro ⟨⟨more, hmore⟩, hlonger⟩
    obtain ⟨back, hline, hword, -⟩ := exists_word line
    cases more with
    | nil =>
      rw [List.append_nil] at hmore
      exact absurd hlonger (by rw [hmore]; exact Nat.lt_irrefl _)
    | cons c more =>
      refine ⟨c, more ++ back, ?_, hword c ?_⟩
      · rw [List.nil_append, ← List.cons_append, ← List.append_assoc, hmore]
        exact hline
      · rw [← hmore]
        exact List.mem_append_right _ List.mem_cons_self

theorem opens_cons_iff (c d : Char) (rest front : List Char) :
    Opens (c :: rest) (d :: front) ↔ c = d ∧ Opens rest front := by
  constructor
  · rintro ⟨b, back, hline, hb⟩
    obtain ⟨rfl, hrest⟩ := List.cons.inj hline
    exact ⟨rfl, b, back, hrest, hb⟩
  · rintro ⟨rfl, b, back, rfl, hb⟩
    exact ⟨b, back, rfl, hb⟩

theorem find_cons_of_opens {c : Char} {rest : List Char} (h : Opens (c :: rest) []) :
    find (c :: rest) = some (word (c :: rest)) :=
  if_pos ((opens_nil_iff _).1 h)

theorem find_cons_of_not_opens {c : Char} {rest : List Char} (h : ¬ Opens (c :: rest) []) :
    find (c :: rest) = find rest :=
  if_neg fun hword => h ((opens_nil_iff _).2 hword)

/-- A line that opens with an address announces its first word. -/
theorem announces_iff_of_opens {line endpoint : List Char} (h : Opens line []) :
    Announces line endpoint ↔ endpoint = word line := by
  constructor
  · rintro ⟨front, back, rfl, -, hfirst, hword, hback⟩
    have hfront : front = [] := List.eq_nil_of_length_eq_zero (Nat.le_zero.1 (hfirst [] h))
    rw [hfront, List.nil_append, word_append hword hback]
  · rintro rfl
    obtain ⟨back, hline, hword, hback⟩ := exists_word line
    exact ⟨[], back, hline, h, fun other _ => Nat.zero_le _, hword, hback⟩

/-- A line that does not open with an address announces what it does after its first character. -/
theorem announces_cons_iff {c : Char} {rest endpoint : List Char} (h : ¬ Opens (c :: rest) []) :
    Announces (c :: rest) endpoint ↔ Announces rest endpoint := by
  constructor
  · rintro ⟨front, back, hline, hopens, hfirst, hrun⟩
    cases front with
    | nil => exact absurd hopens h
    | cons d front =>
      obtain ⟨-, hopens⟩ := (opens_cons_iff c d rest front).1 hopens
      refine ⟨front, back, (List.cons.inj hline).2, hopens, fun other hother => ?_, hrun⟩
      exact Nat.le_of_succ_le_succ (hfirst (c :: other) ((opens_cons_iff ..).2 ⟨rfl, hother⟩))
  · rintro ⟨front, back, rfl, hopens, hfirst, hrun⟩
    have hlonger : Opens (c :: (front ++ endpoint ++ back)) (c :: front) :=
      (opens_cons_iff ..).2 ⟨rfl, hopens⟩
    refine ⟨c :: front, back, rfl, hlonger, fun other hother => ?_, hrun⟩
    cases other with
    | nil => exact absurd hother h
    | cons d other =>
      exact Nat.succ_le_succ (hfirst other ((opens_cons_iff ..).1 hother).2)

/-- The search along a line finds what the line announces. -/
theorem find_eq_some_iff (line endpoint : List Char) :
    find line = some endpoint ↔ Announces line endpoint := by
  -- Along the line: either the address begins here, or this character does not matter.
  induction line with
  | nil =>
    refine iff_of_false (by simp [find]) ?_
    rintro ⟨front, back, -, ⟨c, rest, hline, -⟩, -⟩
    simpa using congrArg List.length hline
  | cons c rest ih =>
    by_cases h : Opens (c :: rest) []
    · rw [find_cons_of_opens h, Option.some.injEq, announces_iff_of_opens h, eq_comm]
    · rw [find_cons_of_not_opens h, ih, announces_cons_iff h]

-- The first place is followed by white space, and the next one holds another one.
example : find "at ws:// or ws://a/ws://b c".toList = some "ws://a/ws://b".toList := by decide

theorem find_eq_none_iff (line : List Char) :
    find line = none ↔ ∀ endpoint, ¬ Announces line endpoint := by
  rw [Option.eq_none_iff_forall_ne_some]
  exact forall_congr' fun endpoint => not_congr (find_eq_some_iff line endpoint)

theorem word_concat_of_blank {b : Char} (hb : Text.isBlank b = true) (line : List Char) :
    word (line ++ [b]) = word line := by
  obtain ⟨back, hline, hword, hback⟩ := exists_word line
  have hrun : word (word line ++ (back ++ [b])) = word line := by
    refine word_append hword fun c hc => ?_
    cases back with
    | nil => rwa [← Option.some.inj hc]
    | cons d back => exact hback c hc
  rwa [← List.append_assoc, ← hline] at hrun

/-- White space at the end of a line does not matter. -/
theorem find_concat_of_blank {b : Char} (hb : Text.isBlank b = true) (line : List Char) :
    find (line ++ [b]) = find line := by
  have hword (c : Char) (rest : List Char) : word (c :: (rest ++ [b])) = word (c :: rest) :=
    word_concat_of_blank hb (c :: rest)
  induction line with
  | nil =>
    rw [List.nil_append, find_cons_of_not_opens, find]
    rintro ⟨c, rest, hline, -⟩
    simpa [scheme] using congrArg List.length hline
  | cons c rest ih =>
    have hopens : Opens (c :: (rest ++ [b])) [] ↔ Opens (c :: rest) [] := by
      rw [opens_nil_iff, opens_nil_iff, hword]
    rw [List.cons_append]
    by_cases h : Opens (c :: rest) []
    · rw [find_cons_of_opens (hopens.2 h), find_cons_of_opens h, hword]
    · rw [find_cons_of_not_opens (hopens.not.2 h), find_cons_of_not_opens h, ih]

/-! ### The lines of the output -/

/-- A line of text, without its end. -/
structure Line where
  chars : List Char
  unbroken : '\n' ∉ chars

/-- The bytes of a line. -/
def Line.bytes (l : Line) : List UInt8 := Text.utf8Bytes (String.ofList l.chars)

/-- The bytes of some lines, each with its end. -/
def written (lines : List Line) : List UInt8 := lines.flatMap fun l => l.bytes ++ [lineFeed]

theorem Line.bytes_eq (l : Line) : l.bytes = l.chars.flatMap String.utf8EncodeChar := by
  rw [bytes, Text.utf8Bytes, String.toList_ofList]

theorem lineFeed_not_mem_bytes (l : Line) : lineFeed ∉ l.bytes := by
  rw [l.bytes_eq, List.mem_flatMap]
  rintro ⟨c, hc, hmem⟩
  have hne : c ≠ '\n' := fun h => l.unbroken (h ▸ hc)
  exact Text.ascii_not_mem_utf8EncodeChar (a := '\n') (by decide) hne hmem

/-- Bytes without a line feed belong to one line. -/
theorem lines_of_not_mem {front : List UInt8} (h : lineFeed ∉ front) :
    lines front = ([], front) := by
  induction front with
  | nil => rfl
  | cons b front ih =>
    rw [List.mem_cons, not_or] at h
    rw [lines, ih h.2]
    exact if_neg (Ne.symm h.1)

/-- A line ends at its line feed. -/
theorem lines_append {front : List UInt8} (h : lineFeed ∉ front) (rest : List UInt8) :
    lines (front ++ lineFeed :: rest) = (front :: (lines rest).1, (lines rest).2) := by
  induction front with
  | nil =>
    rw [List.nil_append, lines]
    exact if_pos rfl
  | cons b front ih =>
    rw [List.mem_cons, not_or] at h
    rw [List.cons_append, lines, ih h.2]
    exact if_neg (Ne.symm h.1)

/-- The lines are read as they were written, in front of whatever follows. -/
theorem lines_written (ls : List Line) (rest : List UInt8) :
    lines (written ls ++ rest) = (ls.map Line.bytes ++ (lines rest).1, (lines rest).2) := by
  induction ls with
  | nil => rfl
  | cons l ls ih =>
    have hsplit : written (l :: ls) ++ rest = l.bytes ++ lineFeed :: (written ls ++ rest) := by
      simp [written]
    rw [hsplit, lines_append (lineFeed_not_mem_bytes l), ih]
    rfl

/-- The bytes are read as a text that announces what the line does. -/
def Reads (bytes : List UInt8) (l : Line) : Prop :=
  ∃ text, Text.ofUtf8? bytes = some text ∧ find text.toList = find l.chars

theorem reads_bytes (l : Line) : Reads l.bytes l :=
  ⟨String.ofList l.chars, Text.ofUtf8?_utf8Bytes _, by rw [String.toList_ofList]⟩

/-- A carriage return at the end of a line is dropped, and the line announces the same. -/
theorem reads_dropReturn (l : Line) : Reads (dropReturn l.bytes) l := by
  rw [dropReturn]
  split_ifs with hreturn
  case neg => exact reads_bytes l
  rcases List.eq_nil_or_concat l.chars with hchars | ⟨front, c, hchars⟩
  · rw [l.bytes_eq, hchars] at hreturn
    cases hreturn
  · rw [List.concat_eq_append] at hchars
    have hbytes : l.bytes = front.flatMap String.utf8EncodeChar ++ String.utf8EncodeChar c := by
      rw [l.bytes_eq, hchars, List.flatMap_append, List.flatMap_singleton]
    have hc : c = '\r' := by
      by_contra hne
      rw [hbytes, List.getLast?_append_of_ne_nil _ String.utf8EncodeChar_ne_nil] at hreturn
      exact Text.ascii_not_mem_utf8EncodeChar (a := '\r') (by decide) hne
        (List.mem_of_getLast? hreturn)
    have hdropped : l.bytes.dropLast = Text.utf8Bytes (String.ofList front) := by
      rw [hbytes, hc, Text.utf8EncodeChar_ascii (by decide), List.dropLast_concat, Text.utf8Bytes,
        String.toList_ofList]
    refine ⟨String.ofList front, by rw [hdropped, Text.ofUtf8?_utf8Bytes], ?_⟩
    rw [String.toList_ofList, hchars, hc, find_concat_of_blank (by decide)]

/-! ### The search along the output -/

/-- The address that the first line with an address announces. -/
def FirstAnnounced (ls : List Line) (endpoint : List Char) : Prop :=
  ∃ before l after, ls = before ++ l :: after ∧
    (∀ other ∈ before, ∀ address, ¬ Announces other.chars address) ∧ Announces l.chars endpoint

/-- The first address that is found on some lines. -/
def search (ls : List Line) : Option (List Char) := ls.findSome? fun l => find l.chars

theorem search_cons (l : Line) (ls : List Line) :
    search (l :: ls) = (find l.chars).or (search ls) := by
  rw [search, List.findSome?_cons]
  cases find l.chars <;> rfl

theorem search_append (front back : List Line) :
    search (front ++ back) = (search front).or (search back) :=
  List.findSome?_append

theorem search_eq_some_iff (ls : List Line) (endpoint : List Char) :
    search ls = some endpoint ↔ FirstAnnounced ls endpoint := by
  rw [search, List.findSome?_eq_some_iff]
  simp only [find_eq_some_iff, find_eq_none_iff]
  refine exists_congr fun before => exists_congr fun l => exists_congr fun after => ?_
  exact and_congr_right fun _ => and_comm

theorem search_eq_none_iff (ls : List Line) :
    search ls = none ↔ ∀ l ∈ ls, ∀ endpoint, ¬ Announces l.chars endpoint := by
  rw [search, List.findSome?_eq_none_iff]
  simp only [find_eq_none_iff]

theorem scanLines_cons {bytes : List UInt8} {l : Line} (h : Reads bytes l) (ended : Bool)
    (rest : List (List UInt8)) :
    scanLines ended (bytes :: rest) =
      match find l.chars with
      | some endpoint => .found (String.ofList endpoint)
      | none => scanLines ended rest := by
  obtain ⟨text, htext, hfind⟩ := h
  cases hfound : find l.chars <;> simp only [scanLines, htext, hfind, hfound]

/-- Complete lines are searched in their order, and then what follows them. -/
theorem scanLines_append (ls : List Line) (ended : Bool) (rest : List (List UInt8)) :
    scanLines ended ((ls.map Line.bytes).map dropReturn ++ rest) =
      match search ls with
      | some endpoint => .found (String.ofList endpoint)
      | none => scanLines ended rest := by
  induction ls with
  | nil => rfl
  | cons l ls ih =>
    rw [List.map_cons, List.map_cons, List.cons_append, scanLines_cons (reads_dropReturn l), ih,
      search_cons]
    cases find l.chars <;> rfl

/-- Output that has ended is searched line by line, the last one included. -/
theorem scan_ended (ls : List Line) (last : Line) :
    scan (written ls ++ last.bytes) true =
      match search (ls ++ [last]) with
      | some endpoint => .found (String.ofList endpoint)
      | none => .absent := by
  have hlast : scanLines true (if true && !last.bytes.isEmpty then [last.bytes] else []) =
      match find last.chars with
      | some endpoint => .found (String.ofList endpoint)
      | none => .absent := by
    by_cases hempty : last.bytes = []
    · have hchars : last.chars = [] := by
        rw [last.bytes_eq, List.flatMap_eq_nil_iff] at hempty
        exact List.eq_nil_iff_forall_not_mem.2 fun c hc =>
          String.utf8EncodeChar_ne_nil (hempty c hc)
      rw [hempty, hchars]
      rfl
    · rw [if_pos (by simpa using hempty), scanLines_cons (reads_bytes last)]
      rfl
  rw [scan, readable, lines_written, lines_of_not_mem (lineFeed_not_mem_bytes last)]
  dsimp only
  rw [List.append_nil, scanLines_append, hlast, search_append, search_cons]
  cases search ls <;> cases find last.chars <;> rfl

/-- A line that announces an endpoint ends the search, whatever follows it. -/
theorem scan_announced {ls : List Line} {endpoint : List Char} (h : search ls = some endpoint)
    (rest : List UInt8) (ended : Bool) :
    scan (written ls ++ rest) ended = .found (String.ofList endpoint) := by
  rw [scan, readable, lines_written]
  dsimp only
  rw [List.map_append, List.append_assoc, scanLines_append, h]

end Endpoint

open Endpoint

/-- The endpoint of a debuggee is what the first line announces that announces anything.  If its
diagnostic output ends without such a line, and only then, there is no endpoint; and as soon as such
a line is complete nothing matters that follows it, nor whether the output has ended. -/
theorem endpoint_is_first_announced (s : LauncherSettings) (ls : List Line) :
    (∀ last : Line,
      (∀ endpoint, s.outcome (written ls ++ last.bytes) true = .ok ⟨endpoint, true, s.exitGrace⟩ ↔
        FirstAnnounced (ls ++ [last]) endpoint.toList) ∧
      (s.outcome (written ls ++ last.bytes) true = .error .noEndpoint ↔
        ∀ l ∈ ls ++ [last], ∀ endpoint, ¬ Announces l.chars endpoint)) ∧
    ∀ (endpoint : String) (rest : List UInt8) (ended : Bool),
      FirstAnnounced ls endpoint.toList →
        s.outcome (written ls ++ rest) ended = .ok ⟨endpoint, true, s.exitGrace⟩ := by
  refine ⟨fun last => ?_, fun endpoint rest ended h => ?_⟩
  · simp only [← search_eq_some_iff, ← search_eq_none_iff, LauncherSettings.outcome, scan_ended]
    cases search (ls ++ [last]) with
    | none => simp
    | some found =>
      simp [String.ext_iff]
  · rw [LauncherSettings.outcome, scan_announced ((search_eq_some_iff ls _).2 h),
      String.ofList_toList]

end ValueTrace
