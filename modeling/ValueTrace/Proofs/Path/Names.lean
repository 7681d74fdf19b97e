import Mathlib.Data.List.DropRight
import ValueTrace.Path.Basic

/-!
# Names along paths

A path leads along its names, so two absolute paths with the same names lead to the same place,
however they are written.  The names of a path that follows another one come after those of the
other one, unless the path is absolute (`FilePath.names_join`), and those of the parent of a path
are all but the last (`FilePath.names_parent`).

## Main results

* `FilePath.splitSlash_eq_splitOn`, `FilePath.joinSlash_eq_intercalate` : parts between slashes are
  those of lists in general.
* `FilePath.names_join` : the names along two paths.
* `FilePath.names_parent`, `FilePath.isAbsolute_parent` : the path above a relative path.
-/

namespace ValueTrace.FilePath

variable {p q parent : FilePath} {a b part : List UInt8} {parts : List (List UInt8)}

/-! ### Parts between slashes -/

theorem splitSlash_eq_splitOn (bytes : List UInt8) : splitSlash bytes = bytes.splitOn slash := by
  induction bytes with
  | nil => rfl
  | cons b bytes ih =>
    rw [splitSlash, List.splitOn, List.splitOnP_cons_eq_if_modifyHead, ← List.splitOn, ih]
    by_cases hb : b = slash
    · simp [hb]
    · rw [if_neg hb, if_neg (by simpa using hb)]
      cases hsplit : bytes.splitOn slash with
      | nil => exact absurd hsplit (List.splitOn_ne_nil _ _)
      | cons part parts => rfl

theorem joinSlash_eq_intercalate (parts : List (List UInt8)) :
    joinSlash parts = [slash].intercalate parts := by
  induction parts with
  | nil => rfl
  | cons part parts ih =>
    cases parts with
    | nil => simp [joinSlash]
    | cons next parts =>
      change part ++ slash :: joinSlash (next :: parts) = _
      rw [ih, List.intercalate_cons_cons, List.append_assoc, List.singleton_append]

theorem splitSlash_append : splitSlash (a ++ slash :: b) = splitSlash a ++ splitSlash b := by
  simp only [splitSlash_eq_splitOn, List.splitOn_append_cons_self]

theorem slash_not_mem_of_mem_splitSlash (h : part ∈ splitSlash a) : slash ∉ part := by
  induction a generalizing part with
  | nil =>
    obtain rfl := List.mem_singleton.1 h
    exact List.not_mem_nil
  | cons b a ih =>
    rw [splitSlash] at h
    split at h
    · rcases List.mem_cons.1 h with rfl | h
      · exact List.not_mem_nil
      · exact ih h
    · rename_i hb
      split at h
      · rename_i first rest hsplit
        rw [hsplit] at ih
        rcases List.mem_cons.1 h with rfl | h
        · rw [List.mem_cons, not_or]
          exact ⟨Ne.symm hb, ih List.mem_cons_self⟩
        · exact ih (List.mem_cons_of_mem _ h)
      · obtain rfl := List.mem_singleton.1 h
        simpa using Ne.symm hb

/-- Parts without slashes are joined and split again. -/
theorem splitSlash_joinSlash (h : ∀ part ∈ parts, slash ∉ part) (hne : parts ≠ []) :
    splitSlash (joinSlash parts) = parts := by
  rw [joinSlash_eq_intercalate, splitSlash_eq_splitOn, List.splitOn_intercalate slash h hne]

/-! ### Paths that follow paths -/

theorem names_ofSlash (h : p.bytes.getLast? = some slash) :
    (⟨p.bytes ++ q.bytes⟩ : FilePath).names = p.names ++ q.names := by
  obtain ⟨bytes, hbytes⟩ := List.getLast?_eq_some_iff.1 h
  rw [names, names, names, hbytes, List.append_assoc, List.singleton_append, splitSlash_append,
    splitSlash_append, List.filter_append, List.filter_append]
  simp [splitSlash, isSilent]

/-- The names of a path that follows another one come after those of the other one; an absolute path
stands for itself. -/
theorem names_join (p q : FilePath) :
    (p.join q).names = if q.isAbsolute then q.names else p.names ++ q.names := by
  rw [join]
  split_ifs with habsolute hplain
  · rfl
  · rw [Bool.or_eq_true, decide_eq_true_eq, List.isEmpty_iff] at hplain
    rcases hplain with hempty | hslash
    · simp [names, hempty, splitSlash, isSilent]
    · exact names_ofSlash hslash
  · rw [names, names, names, splitSlash_append, List.filter_append]

/-! ### Parents -/

theorem filter_dropSilent (parts : List (List UInt8)) :
    (dropSilent parts).filter (fun part => !isSilent part) =
      parts.filter fun part => !isSilent part := by
  induction parts using List.reverseRecOn with
  | nil => rfl
  | append_singleton parts part ih =>
    have hdrop : dropSilent (parts ++ [part]) =
        if isSilent part then dropSilent parts else parts ++ [part] :=
      List.rdropWhile_concat isSilent parts part
    rw [hdrop]
    split_ifs with h
    · rw [ih, List.filter_append]
      simp [h]
    · rfl

theorem dropSilent_isInitial (parts : List (List UInt8)) : dropSilent parts <+: parts :=
  List.rdropWhile_prefix isSilent parts

/-- What remains ends in a part that says something. -/
theorem dropSilent_eq_concat (h : dropSilent parts ≠ []) :
    ∃ before last, dropSilent parts = before ++ [last] ∧ isSilent last = false := by
  refine ⟨_, _, (List.dropLast_concat_getLast h).symm, ?_⟩
  exact Bool.eq_false_iff.2 (List.rdropWhile_last_not isSilent parts h)

/-- Parts that come first in a path and do not all say nothing make a path with their names, which
is absolute if the path is. -/
theorem names_joinSlash (hinitial : parts <+: splitSlash p.bytes) (hne : parts ≠ []) :
    (⟨joinSlash parts⟩ : FilePath).names = parts.filter fun part => !isSilent part := by
  have hplain : ∀ part ∈ parts, slash ∉ part := fun part hpart =>
    slash_not_mem_of_mem_splitSlash (hinitial.subset hpart)
  rw [names, splitSlash_joinSlash hplain hne]

theorem isAbsolute_joinSlash (h : p.isAbsolute = false) (hinitial : parts <+: splitSlash p.bytes) :
    (⟨joinSlash parts⟩ : FilePath).isAbsolute = false := by
  obtain ⟨bytes⟩ := p
  cases parts with
  | nil => rfl
  | cons part parts =>
    cases bytes with
    | nil =>
      obtain ⟨rfl, hparts⟩ := List.cons_prefix_cons.1 hinitial
      rw [List.prefix_nil.1 hparts]
      rfl
    | cons b bytes =>
      -- The first part begins with the first byte, which is no slash.
      have hb : b ≠ slash := by simpa [isAbsolute] using h
      have hfirst : ∃ more, part = b :: more := by
        rw [splitSlash, if_neg hb] at hinitial
        split at hinitial <;> exact ⟨_, (List.cons_prefix_cons.1 hinitial).1⟩
      obtain ⟨more, rfl⟩ := hfirst
      cases parts <;> simpa [isAbsolute, joinSlash] using hb

/-- The parent of a relative path is relative and has all its names but the last one; a path without
a parent has no names. -/
theorem names_parent (h : p.isAbsolute = false) :
    (p.parent?.getD ⟨[]⟩).isAbsolute = false ∧
      (p.parent?.getD ⟨[]⟩).names = p.names.dropLast := by
  have hnames : p.names = (dropSilent (splitSlash p.bytes)).filter fun part => !isSilent part :=
    (filter_dropSilent _).symm
  rw [hnames, parent?]
  cases hkept : dropSilent (splitSlash p.bytes) with
  | nil => cases p.beginsHere <;> exact ⟨rfl, rfl⟩
  | cons part parts =>
    obtain ⟨before, last, hlast, hspeaks⟩ :=
      dropSilent_eq_concat (hkept ▸ List.cons_ne_nil part parts)
    have hbefore : before <+: splitSlash p.bytes := by
      refine List.IsPrefix.trans ⟨[last], ?_⟩ (dropSilent_isInitial _)
      rw [hlast]
    rw [hkept] at hlast
    have hdropLast : (part :: parts).dropLast = before := by rw [hlast, List.dropLast_concat]
    have hinit : ((part :: parts).filter fun part => !isSilent part).dropLast =
        (dropSilent before).filter fun part => !isSilent part := by
      rw [hlast, filter_dropSilent, List.filter_append]
      simp [hspeaks]
    rw [hinit]
    dsimp only
    rw [hdropLast]
    cases hremaining : dropSilent before with
    | nil =>
      rw [anchor, h]
      cases p.beginsHere <;> exact ⟨rfl, rfl⟩
    | cons first rest =>
      have hinitial : first :: rest <+: splitSlash p.bytes :=
        (hremaining ▸ dropSilent_isInitial before).trans hbefore
      exact ⟨isAbsolute_joinSlash h hinitial, names_joinSlash hinitial (List.cons_ne_nil _ _)⟩

end ValueTrace.FilePath
