import Mathlib.Data.List.Perm.Subperm
import ValueTrace.Proofs.Json.Records
import ValueTrace.Settings

/-!
# Revised settings

Settings that are written as JSON may be revised by hand: fields or whole tables are deleted, others
are added of which nothing is known, and fields are put in another order, in the outer table and in
the inner ones.  Whatever is done, the document has every field at most once, and what it still has
of a field is what was written (`Part.revise`).

## Main definitions

* `SettingsTable` : the kinds of settings, with their data, decoders and values.
* `Revision` : one change of a document that holds settings.
* `Json.Document.has` : whether a field was kept.
* `Part` : a document that has some of the fields of a value.

## Main results

* `SettingsTable.part_self` : what is written has all fields.
* `Part.revise` : what a change leaves of the fields.
-/

namespace ValueTrace

open Json

/-! ### Tables -/

/-- The settings that are written and read. -/
inductive SettingsTable where
  | engine
  | launcher
  | parser
  | all
deriving DecidableEq

namespace SettingsTable

/-- The data of settings. -/
abbrev Data : SettingsTable → Type
  | engine => EngineSettings
  | launcher => LauncherSettings
  | parser => ParserSettings
  | all => Settings

/-- Reads settings. -/
def decoder : (table : SettingsTable) → Decoder table.Data
  | engine => EngineSettings.decoder
  | launcher => LauncherSettings.decoder
  | parser => ParserSettings.decoder
  | all => Settings.decoder

/-- The settings as JSON. -/
def value : (table : SettingsTable) → table.Data → Value
  | engine => EngineSettings.value
  | launcher => LauncherSettings.value
  | parser => ParserSettings.value
  | all => Settings.value

/-- The names of the fields. -/
def names : SettingsTable → List String
  | engine => ["request_timeout_ms", "settle_delay_ms", "pause_timeout_ms", "skip_entry_pause",
      "pause_on_exceptions"]
  | launcher => ["node_binary", "inspect_host", "inspect_port", "script_args", "launch_timeout_ms",
      "exit_grace_ms"]
  | parser => ["command"]
  | all => ["engine", "launcher", "parser"]

/-- The inner table that stands in a field. -/
def part? : SettingsTable → String → Option SettingsTable
  | all, "engine" => some engine
  | all, "launcher" => some launcher
  | all, "parser" => some parser
  | _, _ => none

end SettingsTable

/-! ### Revisions -/

/-- One change of a document that holds settings: a field is deleted, one that is not declared is
added, the fields are put in another order, or an inner table is changed in one of these ways. -/
inductive Revision : SettingsTable → Document → Document → Prop
  | delete {table m before after} :
      Revision table (.object (before ++ m :: after) true) (.object (before ++ after) true)
  | insert {table name d before after} (hname : name ∉ table.names) (hintact : d.intact = true) :
      Revision table (.object (before ++ after) true)
        (.object (before ++ (some name, d) :: after) true)
  | permute {table members members'} (hperm : members.Perm members') :
      Revision table (.object members true) (.object members' true)
  | inside {table part name d d' before after} (hpart : table.part? name = some part)
      (h : Revision part d d') :
      Revision table (.object (before ++ (some name, d) :: after) true)
        (.object (before ++ (some name, d') :: after) true)

/-- Whether a document has a field, under the names of the tables that lead to it. -/
def Json.Document.has : Document → List String → Bool
  | _, [] => true
  | .object members _, name :: path =>
    match under name members with
    | d :: _ => d.has path
    | [] => false
  | _, _ :: _ => false

/-! ### Parts -/

/-- A document that has every field of a table at most once, and what it has of the fields of a
value is the same, or a part of the same if the field is an inner table.  Its other members have
names and are undamaged. -/
inductive Part : SettingsTable → Value → Document → Prop
  | object {table fields members}
      (hnamed : ∀ m ∈ members,
        ∃ name, m.1 = some name ∧ (name ∈ table.names ∨ m.2.intact = true))
      (honce : ∀ name ∈ table.names, (under name members).length ≤ 1)
      (hfields : ∀ name ∈ table.names, ∀ v d, table.part? name = none → (name, v) ∈ fields →
        d ∈ under name members → d = .ofValue v)
      (htables : ∀ name ∈ table.names, ∀ part v d, table.part? name = some part →
        (name, v) ∈ fields → d ∈ under name members → Part part v d) :
      Part table (.object fields) (.object members true)

variable {table part : SettingsTable} {v : Value} {d d' : Document} {name : String}
variable {fields : List (String × Value)} {members members' : List (Option String × Document)}

theorem Json.under_append (name : String) (before after : List (Option String × Document)) :
    under name (before ++ after) = under name before ++ under name after :=
  List.filterMap_append

/-- What is under a name that is there at most once. -/
theorem Json.under_eq_singleton (honce : (under name members).length ≤ 1)
    (hd : d ∈ under name members) : under name members = [d] := by
  have hlength : (under name members).length = 1 :=
    Nat.le_antisymm honce (List.length_pos_of_mem hd)
  obtain ⟨e, he⟩ := List.length_eq_one_iff.1 hlength
  rw [he, List.mem_singleton] at hd
  rw [he, hd]

section Replace

variable {before after : List (Option String × Document)}

theorem Json.under_replace_self
    (honce : (under name (before ++ (some name, d) :: after)).length ≤ 1) (d' : Document) :
    under name (before ++ (some name, d') :: after) = [d'] := by
  rw [under_append, under_cons_self, List.length_append, List.length_cons] at honce
  have hbefore : under name before = [] := List.length_eq_zero_iff.1 (by omega)
  have hafter : under name after = [] := List.length_eq_zero_iff.1 (by omega)
  rw [under_append, under_cons_self, hbefore, hafter]
  rfl

theorem Json.under_replace_other {other : String} (hne : name ≠ other) (d d' : Document) :
    under other (before ++ (some name, d') :: after) =
      under other (before ++ (some name, d) :: after) := by
  rw [under_append, under_append, under_cons_other hne, under_cons_other hne]

end Replace

theorem SettingsTable.mem_names_of_part? (h : table.part? name = some part) :
    name ∈ table.names := by
  cases table with
  | all =>
    unfold part? at h
    split at h
    · decide
    · decide
    · decide
    · cases h
  | _ => cases h

namespace Part

/-- Members that have no more under the names of the fields are a part as well. -/
theorem mono (h : Part table v (.object members true))
    (hnamed : ∀ m ∈ members', ∃ name, m.1 = some name ∧ (name ∈ table.names ∨ m.2.intact = true))
    (hunder : ∀ name ∈ table.names, (under name members').Subperm (under name members)) :
    Part table v (.object members' true) := by
  cases h with
  | object _ honce hfields htables =>
    exact .object hnamed
      (fun name hname => Nat.le_trans (hunder name hname).length_le (honce name hname))
      (fun name hname v d hpart hv hd =>
        hfields name hname v d hpart hv ((hunder name hname).subset hd))
      (fun name hname part v d hpart hv hd =>
        htables name hname part v d hpart hv ((hunder name hname).subset hd))

theorem named (h : Part table v (.object members true)) : ∀ m ∈ members,
    ∃ name, m.1 = some name ∧ (name ∈ table.names ∨ m.2.intact = true) := by
  cases h with
  | object hnamed => exact hnamed

/-- What a table has under the name of an inner table may be replaced by another part of it. -/
theorem replace {before after : List (Option String × Document)}
    (h : Part table v (.object (before ++ (some name, d) :: after) true))
    (hpart : table.part? name = some part) (hd : ∀ v, Part part v d → Part part v d') :
    Part table v (.object (before ++ (some name, d') :: after) true) := by
  cases h with
  | object hnamed honce hfields htables =>
    have hname := SettingsTable.mem_names_of_part? hpart
    have hself := under_replace_self (honce name hname) d'
    obtain ⟨hbefore, hafter⟩ := List.forall_mem_append.1 hnamed
    refine .object ?named (fun other hmem => ?once)
      (fun other hmem v e hleaf hv he => ?field) (fun other hmem part' v e hpart' hv he => ?table)
    case named =>
      have hafter := (List.forall_mem_cons.1 hafter).2
      exact List.forall_mem_append.2
        ⟨hbefore, List.forall_mem_cons.2 ⟨⟨name, rfl, Or.inl hname⟩, hafter⟩⟩
    case once =>
      by_cases heq : name = other
      · rw [← heq, hself]
        exact Nat.le_refl 1
      · rw [under_replace_other heq d]
        exact honce other hmem
    case field =>
      have hne : name ≠ other := by
        rintro rfl
        rw [hpart] at hleaf
        cases hleaf
      rw [under_replace_other hne d] at he
      exact hfields other hmem v e hleaf hv he
    case table =>
      by_cases heq : name = other
      · subst heq
        obtain rfl := Option.some.inj (hpart.symm.trans hpart')
        rw [hself, List.mem_singleton] at he
        subst he
        refine hd v (htables name hname part v d hpart hv ?_)
        rw [under_append, under_cons_self]
        exact List.mem_append_right _ List.mem_cons_self
      · rw [under_replace_other heq d] at he
        exact htables other hmem part' v e hpart' hv he

/-- A change leaves a part of the fields. -/
theorem revise (h : Part table v d) (hrevision : Revision table d d') : Part table v d' := by
  -- For any value, since an inner table has a value of its own.
  induction hrevision generalizing v with
  | @delete table m before after =>
    have hsublist : (before ++ after).Sublist (before ++ m :: after) :=
      (List.sublist_cons_self m after).append_left before
    exact h.mono (fun m hm => h.named m (hsublist.mem hm))
      fun name _ => (hsublist.filterMap _).subperm
  | @insert table name d before after hname hintact =>
    obtain ⟨hbefore, hafter⟩ := List.forall_mem_append.1 h.named
    refine h.mono ?_ fun other hother => ?_
    · exact List.forall_mem_append.2
        ⟨hbefore, List.forall_mem_cons.2 ⟨⟨name, rfl, Or.inr hintact⟩, hafter⟩⟩
    · have hne : name ≠ other := fun heq => hname (heq ▸ hother)
      rw [under_append, under_append, under_cons_other hne]
  | permute hperm =>
    exact h.mono (fun m hm => h.named m (hperm.mem_iff.2 hm))
      fun name _ => (hperm.symm.filterMap _).subperm
  | inside hpart hrevision ih =>
    exact h.replace hpart fun v hv => ih hv

end Part

/-! ### Whole values -/

theorem Json.under_ofMembers_of_not_mem (h : name ∉ fields.map Prod.fst) :
    under name (Document.ofMembers fields) = [] := by
  rw [Document.ofMembers_eq_map]
  refine List.filterMap_eq_nil_iff.2 fun m hm => ?_
  obtain ⟨field, hfield, rfl⟩ := List.mem_map.1 hm
  have hne : field.1 ≠ name := fun heq => h (heq ▸ List.mem_map_of_mem hfield)
  simp [hne]

theorem Json.under_ofMembers (hnodup : (fields.map Prod.fst).Nodup) (h : (name, v) ∈ fields) :
    under name (Document.ofMembers fields) = [.ofValue v] := by
  induction fields with
  | nil => cases h
  | cons field fields ih =>
    obtain ⟨other, w⟩ := field
    obtain ⟨hfresh, hnodup⟩ := List.nodup_cons.1 hnodup
    rw [Document.ofMembers]
    rcases List.mem_cons.1 h with heq | h
    · obtain ⟨rfl, rfl⟩ := Prod.mk.inj heq
      rw [under_cons_self, under_ofMembers_of_not_mem hfresh]
    · have hne : other ≠ name := by
        rintro rfl
        exact hfresh (List.mem_map.2 ⟨_, h, rfl⟩)
      rw [under_cons_other hne, ih hnodup h]

/-- A value with some of the fields of a table, each once, is a part of itself if its inner tables
are. -/
theorem Part.of_fields (hnodup : (fields.map Prod.fst).Nodup)
    (hnames : ∀ field ∈ fields, field.1 ∈ table.names)
    (htables : ∀ name part v, table.part? name = some part → (name, v) ∈ fields →
      Part part v (.ofValue v)) :
    Part table (.object fields) (.ofValue (.object fields)) := by
  have hmem {name : String} {v : Value} {d : Document} (hv : (name, v) ∈ fields)
      (hd : d ∈ under name (Document.ofMembers fields)) : d = .ofValue v := by
    rw [under_ofMembers hnodup hv] at hd
    exact List.mem_singleton.1 hd
  refine .object (fun m hm => ?_) (fun name hname => ?_) (fun name hname v d _ hv hd => hmem hv hd)
    (fun name hname part v d hpart hv hd => hmem hv hd ▸ htables name part v hpart hv)
  · rw [Document.ofMembers_eq_map] at hm
    obtain ⟨field, hfield, rfl⟩ := List.mem_map.1 hm
    exact ⟨field.1, rfl, Or.inl (hnames field hfield)⟩
  · by_cases h : name ∈ fields.map Prod.fst
    · obtain ⟨⟨_, v⟩, hv, rfl⟩ := List.mem_map.1 h
      rw [under_ofMembers hnodup hv]
      exact Nat.le_refl 1
    · rw [under_ofMembers_of_not_mem h]
      exact Nat.zero_le 1

theorem EngineSettings.part_self (s : EngineSettings) :
    Part .engine s.value (.ofValue s.value) :=
  .of_fields (by simp) (by simp [SettingsTable.names]) fun _ _ _ hpart _ => nomatch hpart

theorem LauncherSettings.part_self (s : LauncherSettings) :
    Part .launcher s.value (.ofValue s.value) :=
  .of_fields (by simp) (by simp [SettingsTable.names]) fun _ _ _ hpart _ => nomatch hpart

theorem ParserSettings.part_self (s : ParserSettings) :
    Part .parser s.value (.ofValue s.value) :=
  .of_fields (by simp) (by simp [SettingsTable.names]) fun _ _ _ hpart _ => nomatch hpart

theorem Settings.part_self (s : Settings) : Part .all s.value (.ofValue s.value) := by
  refine .of_fields (by simp) (by simp [SettingsTable.names]) fun name part v hpart hv => ?_
  simp only [List.mem_cons, List.not_mem_nil, or_false, Prod.mk.injEq] at hv
  rcases hv with ⟨rfl, rfl⟩ | ⟨rfl, rfl⟩ | ⟨rfl, rfl⟩
  · obtain rfl := Option.some.inj hpart
    exact s.engine.part_self
  · obtain rfl := Option.some.inj hpart
    exact s.launcher.part_self
  · obtain rfl := Option.some.inj hpart
    exact s.parser.part_self

/-- Settings have all of their own fields. -/
theorem SettingsTable.part_self (table : SettingsTable) (settings : table.Data) :
    Part table (table.value settings) (.ofValue (table.value settings)) :=
  match table, settings with
  | engine, s => s.part_self
  | launcher, s => s.part_self
  | parser, s => s.part_self
  | all, s => s.part_self

end ValueTrace
