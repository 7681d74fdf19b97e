import Mathlib.Data.List.Induction
import Mathlib.Data.List.Nodup
import ValueTrace.Session.Basic

/-!
# Histories of tracked expressions

The expressions that are tracked for some candidates are the texts of the candidates, each once, in
the order in which they are first found.  Values that are recorded one by one end up in the
histories of their expressions, in the order in which they are recorded, and no value changes which
expressions are tracked.

## Main definitions

* `TrackedExpressions.recordAll` : the table after a sequence of values.
* `TrackedExpressions.value?` : a single value of a history.
* `TrackedExpressions.SameExcept` : two tables that differ in one value at most.

## Main results

* `TrackedExpressions.expressions_ofCandidates` : what is tracked.
* `TrackedExpressions.history?_recordAll` : what is recorded for an expression.
* `TrackedExpressions.SameExcept.record` : a value that is recorded in both tables.
-/

namespace ValueTrace

open Json (findMember)

theorem Json.findMember_eq_none_iff {α : Type} {name : String} {members : List (String × α)} :
    findMember name members = none ↔ name ∉ members.map Prod.fst := by
  induction members with
  | nil => simp [findMember]
  | cons member rest ih =>
    obtain ⟨n, v⟩ := member
    rw [findMember, List.map_cons, List.mem_cons, not_or, ← ih]
    by_cases h : n = name
    · simp [h]
    · rw [if_neg h]
      exact ⟨fun hrest => ⟨fun heq => h heq.symm, hrest⟩, fun hboth => hboth.2⟩

theorem Json.findMember_concat {α : Type} (name : String) (members : List (String × α))
    (member : String × α) :
    findMember name (members ++ [member]) =
      (findMember name members).or (if member.1 = name then some member.2 else none) := by
  induction members with
  | nil => simp [findMember]
  | cons first rest ih =>
    rw [List.cons_append, findMember, findMember, ih]
    split <;> rfl

namespace TrackedExpressions

variable (t : TrackedExpressions)

/-! ### Tracking -/

theorem history?_eq_none_iff {t : TrackedExpressions} {expression : String} :
    t.history? expression = none ↔ expression ∉ t.expressions :=
  Json.findMember_eq_none_iff

/-- A table is told from its expressions and their histories. -/
theorem entries_eq {t : TrackedExpressions} (h : t.expressions.Nodup) :
    t.entries = t.expressions.map fun text => (text, (t.history? text).getD []) := by
  obtain ⟨entries⟩ := t
  simp only [expressions, history?] at h ⊢
  induction entries with
  | nil => rfl
  | cons entry entries ih =>
    obtain ⟨text, values⟩ := entry
    rw [List.map_cons, List.nodup_cons] at h
    rw [List.map_cons, List.map_cons]
    congr 1
    · simp [Json.findMember]
    · refine (ih h.2).trans (List.map_congr_left fun other hother => ?_)
      have hne : text ≠ other := fun heq => h.1 (heq ▸ hother)
      rw [Json.findMember, if_neg hne]

theorem exists_history? {t : TrackedExpressions} {expression : String}
    (h : expression ∈ t.expressions) : ∃ values, t.history? expression = some values :=
  Option.ne_none_iff_exists'.1 fun hnone => history?_eq_none_iff.1 hnone h

theorem track_eq (expression : String) :
    t.track expression = if expression ∈ t.expressions then (t, false)
      else (⟨t.entries ++ [(expression, [])]⟩, true) := by
  rw [track]
  split_ifs with h
  · obtain ⟨values, hvalues⟩ := exists_history? h
    rw [hvalues]
  · rw [history?_eq_none_iff.2 h]

/-- An expression that is not tracked yet comes last, and one that is tracked stays where it is. -/
theorem expressions_track (expression : String) :
    (t.track expression).1.expressions =
      if expression ∈ t.expressions then t.expressions else t.expressions ++ [expression] := by
  rw [track_eq]
  split_ifs
  · rfl
  · rw [expressions, List.map_append]
    rfl

theorem mem_expressions_track {t : TrackedExpressions} {expression other : String} :
    other ∈ (t.track expression).1.expressions ↔ other ∈ t.expressions ∨ other = expression := by
  rw [expressions_track]
  split_ifs with h
  · exact ⟨Or.inl, fun hor => hor.elim id fun heq => heq ▸ h⟩
  · rw [List.mem_append, List.mem_singleton]

/-- To track an expression gives it an empty history, unless it has one. -/
theorem history?_track (expression other : String) :
    (t.track expression).1.history? other =
      (t.history? other).or (if other = expression then some [] else none) := by
  rw [track_eq]
  split_ifs with h heq heq
  · obtain ⟨values, hvalues⟩ := exists_history? h
    rw [heq, hvalues]
    rfl
  · rw [Option.or_none]
  · rw [history?, Json.findMember_concat, if_pos heq.symm, history?]
  · rw [history?, Json.findMember_concat, if_neg (Ne.symm heq), history?]

theorem ofCandidates_concat (candidates : List Candidate) (c : Candidate) :
    ofCandidates (candidates ++ [c]) = ((ofCandidates candidates).track c.expression).1 := by
  rw [ofCandidates, List.foldl_append]
  rfl

/-- A text that has occurred before adds nothing to the texts without repetition. -/
theorem eraseDups_concat (texts : List String) (text : String) :
    (texts ++ [text]).eraseDups =
      if text ∈ texts then texts.eraseDups else texts.eraseDups ++ [text] := by
  have hremoved : [text].removeAll texts = if text ∈ texts then [] else [text] := by
    by_cases h : text ∈ texts <;> simp [List.removeAll, h]
  rw [List.eraseDups_append, hremoved]
  by_cases h : text ∈ texts
  · rw [if_pos h, if_pos h, List.eraseDups_nil, List.append_nil]
  · rw [if_neg h, if_neg h]
    rfl

theorem nodup_eraseDups (texts : List String) : texts.eraseDups.Nodup := by
  induction texts using List.reverseRecOn with
  | nil => exact List.nodup_nil
  | append_singleton texts text ih =>
    rw [eraseDups_concat]
    split_ifs with h
    · exact ih
    · refine List.nodup_append.2 ⟨ih, List.nodup_singleton _, fun a ha b hb hab => h ?_⟩
      rw [← List.mem_singleton.1 hb, ← hab]
      exact List.mem_eraseDups.1 ha

/-- The tracked expressions are the texts of the candidates without repetition, in the order in
which they first occur. -/
theorem expressions_ofCandidates (candidates : List Candidate) :
    (ofCandidates candidates).expressions =
      (candidates.map Candidate.expression).eraseDups := by
  induction candidates using List.reverseRecOn with
  | nil => rfl
  | append_singleton candidates c ih =>
    rw [ofCandidates_concat, expressions_track, ih, List.map_append, List.map_singleton,
      eraseDups_concat]
    simp only [List.mem_eraseDups]

/-- No expression is tracked twice. -/
theorem nodup_expressions_ofCandidates (candidates : List Candidate) :
    (ofCandidates candidates).expressions.Nodup := by
  rw [expressions_ofCandidates]
  exact nodup_eraseDups _

/-- At first every tracked expression has an empty history. -/
theorem history?_ofCandidates {candidates : List Candidate} {expression : String}
    (h : expression ∈ (ofCandidates candidates).expressions) :
    (ofCandidates candidates).history? expression = some [] := by
  induction candidates using List.reverseRecOn with
  | nil => simp [ofCandidates, expressions, empty] at h
  | append_singleton candidates c ih =>
    rw [ofCandidates_concat, history?_track]
    by_cases hold : expression ∈ (ofCandidates candidates).expressions
    · rw [ih hold]
      rfl
    · rw [ofCandidates_concat, mem_expressions_track] at h
      have hnew : expression = c.expression := h.resolve_left hold
      rw [history?_eq_none_iff.2 hold, if_pos hnew]
      rfl

/-! ### Recording -/

theorem map_fst_append (expression : String) (value : ValueRecord)
    (entries : List (String × List ValueRecord)) :
    (append expression value entries).map Prod.fst = entries.map Prod.fst := by
  induction entries with
  | nil => rfl
  | cons entry rest ih =>
    rw [append]
    split_ifs
    · rfl
    · rw [List.map_cons, ih, List.map_cons]

theorem findMember_append (expression other : String) (value : ValueRecord)
    (entries : List (String × List ValueRecord)) :
    findMember other (append expression value entries) =
      if other = expression then (findMember other entries).map (· ++ [value])
      else findMember other entries := by
  induction entries with
  | nil => simp [append, findMember]
  | cons entry rest ih =>
    obtain ⟨name, values⟩ := entry
    rw [append]
    by_cases hname : name = expression
    · subst hname
      rw [if_pos rfl, findMember, findMember]
      by_cases hother : other = name
      · simp [hother]
      · simp only [if_neg hother, if_neg (Ne.symm hother)]
    · rw [if_neg hname, findMember, findMember, ih]
      by_cases hother : name = other
      · subst hother
        simp [hname]
      · rw [if_neg hother, if_neg hother]

theorem record_eq (expression : String) (value : ValueRecord) :
    t.record expression value = if expression ∈ t.expressions then
      (⟨append expression value t.entries⟩, true) else (t, false) := by
  rw [record]
  split_ifs with h
  · obtain ⟨values, hvalues⟩ := exists_history? h
    rw [hvalues]
  · rw [history?_eq_none_iff.2 h]

/-- A recorded value changes no expression. -/
@[simp] theorem expressions_record (expression : String) (value : ValueRecord) :
    (t.record expression value).1.expressions = t.expressions := by
  rw [record_eq]
  split_ifs
  · exact map_fst_append expression value t.entries
  · rfl

/-- A recorded value comes last in the history of its expression. -/
theorem history?_record (expression other : String) (value : ValueRecord) :
    (t.record expression value).1.history? other =
      if other = expression then (t.history? other).map (· ++ [value]) else t.history? other := by
  rw [record_eq]
  by_cases h : expression ∈ t.expressions
  · rw [if_pos h]
    exact findMember_append expression other value t.entries
  · rw [if_neg h]
    split_ifs with heq
    · rw [heq, history?_eq_none_iff.2 h]
      rfl
    · rfl

/-- The table after values were recorded for some expressions, one by one. -/
def recordAll (t : TrackedExpressions) (log : List (String × ValueRecord)) : TrackedExpressions :=
  log.foldl (fun t entry => (t.record entry.1 entry.2).1) t

theorem recordAll_concat (log : List (String × ValueRecord)) (entry : String × ValueRecord) :
    t.recordAll (log ++ [entry]) = ((t.recordAll log).record entry.1 entry.2).1 := by
  rw [recordAll, List.foldl_append]
  rfl

@[simp] theorem expressions_recordAll (log : List (String × ValueRecord)) :
    (t.recordAll log).expressions = t.expressions := by
  induction log using List.reverseRecOn with
  | nil => rfl
  | append_singleton log entry ih => rw [recordAll_concat, expressions_record, ih]

/-- The values recorded for an expression come after those it had, in the order in which they were
recorded. -/
theorem history?_recordAll (log : List (String × ValueRecord)) (expression : String) :
    (t.recordAll log).history? expression = (t.history? expression).map
      (· ++ (log.filter fun entry => entry.1 = expression).map Prod.snd) := by
  induction log using List.reverseRecOn with
  | nil => simp [recordAll]
  | append_singleton log entry ih =>
    rw [recordAll_concat, history?_record, ih, List.filter_append, List.map_append]
    by_cases h : expression = entry.1
    · rw [if_pos h, Option.map_map]
      simp [h, Function.comp_def]
    · rw [if_neg h]
      simp [Ne.symm h]

/-! ### Single values -/

/-- The value of an expression at a place of its history. -/
def value? (t : TrackedExpressions) (expression : String) (place : Nat) : Option ValueRecord :=
  (t.history? expression).bind fun values => values[place]?

/-- The two tables track the same expressions, with histories of the same lengths, and have the same
values everywhere except perhaps at one place of one history. -/
structure SameExcept (expression : String) (place : Nat) (t t' : TrackedExpressions) : Prop where
  expressions : t'.expressions = t.expressions
  lengths : ∀ other, (t'.history? other).map List.length = (t.history? other).map List.length
  values : ∀ other i, (other = expression → i ≠ place) → t'.value? other i = t.value? other i

namespace SameExcept

variable {expression : String} {place : Nat} {t t' : TrackedExpressions}

theorem refl (t : TrackedExpressions) : SameExcept expression place t t :=
  ⟨rfl, fun _ => rfl, fun _ _ _ => rfl⟩

/-- The histories of an expression are both missing, or have the same length. -/
theorem history?_cases (h : SameExcept expression place t t') (other : String) :
    (t.history? other = none ∧ t'.history? other = none) ∨
      ∃ values values', t.history? other = some values ∧ t'.history? other = some values' ∧
        values'.length = values.length := by
  have hlengths := h.lengths other
  cases hv : t.history? other with
  | none =>
    rw [hv, Option.map_none, Option.map_eq_none_iff] at hlengths
    exact Or.inl ⟨rfl, hlengths⟩
  | some values =>
    rw [hv, Option.map_some, Option.map_eq_some_iff] at hlengths
    obtain ⟨values', hv', hlength⟩ := hlengths
    exact Or.inr ⟨values, values', rfl, hv', hlength⟩

/-- The same value recorded in both tables leaves them the same but for the one place. -/
theorem record (h : SameExcept expression place t t') (other : String) (value : ValueRecord) :
    SameExcept expression place (t.record other value).1 (t'.record other value).1 := by
  refine ⟨?_, fun name => ?_, fun name i hne => ?_⟩
  · rw [expressions_record, expressions_record, h.expressions]
  · rw [history?_record, history?_record]
    split_ifs with hname
    · rcases h.history?_cases name with ⟨hv, hv'⟩ | ⟨values, values', hv, hv', hlength⟩
      · rw [hv, hv']
      · simp [hv, hv', hlength]
    · exact h.lengths name
  · rw [value?, value?, history?_record, history?_record]
    split_ifs with hname
    · have hvalue := h.values name i hne
      rcases h.history?_cases name with ⟨hv, hv'⟩ | ⟨values, values', hv, hv', hlength⟩
      · rw [hv, hv']
      · simp only [value?, hv, hv', Option.bind_some] at hvalue
        simp only [hv, hv', Option.map_some, Option.bind_some, List.getElem?_append, hlength,
          hvalue]
    · exact h.values name i hne

/-- Two values recorded for one expression in the same table differ at the place where its history
ended. -/
theorem of_record {values : List ValueRecord} (h : t.history? expression = some values)
    (value value' : ValueRecord) :
    SameExcept expression values.length (t.record expression value).1
      (t.record expression value').1 := by
  refine ⟨?_, fun name => ?_, fun name i hne => ?_⟩
  · rw [expressions_record, expressions_record]
  · rw [history?_record, history?_record]
    split_ifs with hname
    · simp [hname, h]
    · rfl
  · rw [value?, value?, history?_record, history?_record]
    split_ifs with hname
    · have hplace := hne hname
      rw [hname, h]
      simp only [Option.map_some, Option.bind_some, List.getElem?_append]
      split_ifs with hi
      · rfl
      · rw [List.getElem?_eq_none, List.getElem?_eq_none] <;> simp only [List.length_singleton] <;>
          omega
    · rfl

end SameExcept

/-- A value that is recorded is found at the place where the history ended. -/
theorem value?_record {values : List ValueRecord} {expression : String}
    (h : t.history? expression = some values) (value : ValueRecord) :
    (t.record expression value).1.value? expression values.length = some value := by
  rw [value?, history?_record, if_pos rfl, h]
  simp

end TrackedExpressions

end ValueTrace
