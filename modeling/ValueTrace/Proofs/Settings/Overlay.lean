import Mathlib.Logic.Relation
import ValueTrace.Proofs.Json.Edits
import ValueTrace.Proofs.Json.Written
import ValueTrace.Proofs.Settings.Revisions

/-!
# Partial settings

What is read after settings were revised has the old value in every field that was kept and the
default in every field that was deleted (`partial_settings_overlay_defaults`).  Settings that were
not revised are read as they were, from a value and from its text.

## Main definitions

* `SettingsTable.overlay` : settings with defaults for the fields that were not kept.

## Main results

* `SettingsTable.decoder_of_part` : what is read from some of the fields.
* `partial_settings_overlay_defaults` : what is read after any number of changes.
-/

namespace ValueTrace

open Json
open Inspector (PauseOnExceptions)

/-! ### Overlays -/

/-- The settings with the defaults in all fields that are not kept. -/
def EngineSettings.overlay (kept : List String → Bool) (s : EngineSettings) : EngineSettings where
  requestTimeoutMs :=
    if kept ["request_timeout_ms"] then s.requestTimeoutMs else default.requestTimeoutMs
  settleDelayMs := if kept ["settle_delay_ms"] then s.settleDelayMs else default.settleDelayMs
  pauseTimeoutMs := if kept ["pause_timeout_ms"] then s.pauseTimeoutMs else default.pauseTimeoutMs
  skipEntryPause := if kept ["skip_entry_pause"] then s.skipEntryPause else default.skipEntryPause
  pauseOnExceptions :=
    if kept ["pause_on_exceptions"] then s.pauseOnExceptions else default.pauseOnExceptions

/-- The settings with the defaults in all fields that are not kept. -/
def LauncherSettings.overlay (kept : List String → Bool) (s : LauncherSettings) :
    LauncherSettings where
  nodeBinary := if kept ["node_binary"] then s.nodeBinary else default.nodeBinary
  inspectHost := if kept ["inspect_host"] then s.inspectHost else default.inspectHost
  inspectPort := if kept ["inspect_port"] then s.inspectPort else default.inspectPort
  scriptArgs := if kept ["script_args"] then s.scriptArgs else default.scriptArgs
  launchTimeoutMs :=
    if kept ["launch_timeout_ms"] then s.launchTimeoutMs else default.launchTimeoutMs
  exitGraceMs := if kept ["exit_grace_ms"] then s.exitGraceMs else default.exitGraceMs

/-- The settings with the default if the command is not kept. -/
def ParserSettings.overlay (kept : List String → Bool) (s : ParserSettings) : ParserSettings where
  command := if kept ["command"] then s.command else default.command

/-- The settings with the defaults in all tables, and in all fields of tables, that are not kept. -/
def Settings.overlay (kept : List String → Bool) (s : Settings) : Settings where
  engine :=
    if kept ["engine"] then s.engine.overlay fun path => kept ("engine" :: path)
    else default.engine
  launcher :=
    if kept ["launcher"] then s.launcher.overlay fun path => kept ("launcher" :: path)
    else default.launcher
  parser :=
    if kept ["parser"] then s.parser.overlay fun path => kept ("parser" :: path)
    else default.parser

/-- The settings with the defaults in all fields that are not kept. -/
def SettingsTable.overlay :
    (table : SettingsTable) → (List String → Bool) → table.Data → table.Data
  | engine => EngineSettings.overlay
  | launcher => LauncherSettings.overlay
  | parser => ParserSettings.overlay
  | all => Settings.overlay

/-! ### Reading fields -/

variable {table part : SettingsTable} {v : Value} {d : Document} {name : String}
variable {fields : List (String × Value)} {members : List (Option String × Document)}
variable {origin : Origin} {α β : Type}

theorem Json.Decoder.optional_uint64_ofNat (n : Option UInt64) :
    Decoder.uint64.optional origin (.ofValue (match n with
      | some n => .ofNat n.toNat
      | none => .null)) = .ok n := by
  cases n with
  | none => rfl
  | some n =>
    have hnull : Document.ofValue (.ofNat n.toNat) ≠ .null := nofun
    exact (Decoder.optional_eq_ok_iff hnull).2 ⟨n, Decoder.uint64_ofNat n, rfl⟩

theorem PauseOnExceptions.decoder_ofValue (p : PauseOnExceptions) :
    PauseOnExceptions.decoder origin (.ofValue (.string p.name)) = .ok p := by
  cases p <;> cases origin <;> rfl

/-- A field that is there at most once gets its default exactly if it is not there. -/
theorem Json.gets_withDefault {read : Decoder β} {absent b : β}
    (honce : (under name members).length ≤ 1)
    (hread : ∀ d ∈ under name members, read origin d = .ok b) :
    Gets (read origin) (some absent) none (under name members)
      (if (Document.object members true).has [name] then b else absent) := by
  rw [Document.has]
  cases hunder : under name members with
  | nil => exact .default rfl rfl
  | cons d rest =>
    have hd : d ∈ under name members := hunder ▸ List.mem_cons_self
    rw [← hunder, under_eq_singleton honce hd]
    exact .read rfl (hread d hd)

namespace Part

/-- A field has its old value if it was kept. -/
theorem gets (h : Part table (.object fields) (.object members true)) {read : Decoder β}
    {absent b : β} (i : Nat) (hplace : fields[i]? = some (name, v)) (hname : name ∈ table.names)
    (hleaf : table.part? name = none) (hread : read origin (.ofValue v) = .ok b) :
    Gets (read origin) (some absent) none (under name members)
      (if (Document.object members true).has [name] then b else absent) := by
  cases h with
  | object _ honce hfields _ =>
    exact gets_withDefault (honce name hname) fun d hd =>
      hfields name hname v d hleaf (List.mem_of_getElem? hplace) hd ▸ hread

/-- An inner table has its old values in the fields that were kept, if the table was kept. -/
theorem gets_table (h : Part table (.object fields) (.object members true))
    {read : Decoder β} {absent : β} (overlay : (List String → Bool) → β) (i : Nat)
    (hplace : fields[i]? = some (name, v)) (hpart : table.part? name = some part)
    (hread : ∀ d, Part part v d → read origin d = .ok (overlay d.has)) :
    Gets (read origin) (some absent) none (under name members)
      (if (Document.object members true).has [name] then
        overlay fun path => (Document.object members true).has (name :: path)
      else absent) := by
  have hname := SettingsTable.mem_names_of_part? hpart
  cases h with
  | object _ honce _ htables =>
    refine gets_withDefault (honce name hname) fun d hd => ?_
    have hhas : (fun path => (Document.object members true).has (name :: path)) = d.has := by
      funext path
      rw [Document.has, under_eq_singleton (honce name hname) hd]
    rw [hhas]
    exact hread d (htables name hname part v d hpart (List.mem_of_getElem? hplace) hd)

theorem exists_members (h : Part table (.object fields) d) :
    ∃ members, d = .object members true ∧ Part table (.object fields) (.object members true) := by
  cases h with
  | object hnamed honce hfields htables => exact ⟨_, rfl, .object hnamed honce hfields htables⟩

/-- A part is read as the record that gets its members. -/
theorem decoder_eq (h : Part table v (.object members true)) {r : Record α} (kind : String)
    (hnodup : r.names.Nodup) (hnames : ∀ name ∈ table.names, name ∈ r.names) {a : α}
    (hgives : r.Gives origin members a) :
    r.decoder kind origin (.object members true) = .ok a := by
  refine (Record.decodeMembers_eq_ok_iff hnodup true a).2 ⟨rfl, fun m hm => ?_, hgives⟩
  obtain ⟨name, heq, hor⟩ := h.named m hm
  exact ⟨name, heq, hor.imp_left (hnames name)⟩

end Part

/-- The engine's settings that are read from a part of them. -/
theorem EngineSettings.decoder_of_part {s : EngineSettings} (h : Part .engine s.value d) :
    EngineSettings.decoder origin d = .ok (s.overlay d.has) := by
  obtain ⟨members, rfl, h⟩ := Part.exists_members h
  refine h.decoder_eq "EngineConfig" (by decide) (by decide) ?_
  exact Record.gives_make EngineSettings.mk origin members
    |>.withDefault (h.gets 0 rfl (by decide) rfl (Decoder.uint64_ofNat _))
    |>.withDefault (h.gets 1 rfl (by decide) rfl (Decoder.uint64_ofNat _))
    |>.withDefault (h.gets 2 rfl (by decide) rfl (Decoder.optional_uint64_ofNat _))
    |>.withDefault (h.gets 3 rfl (by decide) rfl rfl)
    |>.withDefault (h.gets 4 rfl (by decide) rfl (PauseOnExceptions.decoder_ofValue _))

/-- The launcher's settings that are read from a part of them. -/
theorem LauncherSettings.decoder_of_part {s : LauncherSettings} (h : Part .launcher s.value d) :
    LauncherSettings.decoder origin d = .ok (s.overlay d.has) := by
  obtain ⟨members, rfl, h⟩ := Part.exists_members h
  refine h.decoder_eq "LauncherConfig" (by decide) (by decide) ?_
  exact Record.gives_make LauncherSettings.mk origin members
    |>.withDefault (h.gets 0 rfl (by decide) rfl rfl)
    |>.withDefault (h.gets 1 rfl (by decide) rfl rfl)
    |>.withDefault (h.gets 2 rfl (by decide) rfl (Decoder.uint16_ofNat _))
    |>.withDefault (h.gets 3 rfl (by decide) rfl (Decoder.inverts_text.list _ _))
    |>.withDefault (h.gets 4 rfl (by decide) rfl (Decoder.uint64_ofNat _))
    |>.withDefault (h.gets 5 rfl (by decide) rfl (Decoder.uint64_ofNat _))

/-- The parser's settings that are read from a part of them. -/
theorem ParserSettings.decoder_of_part {s : ParserSettings} (h : Part .parser s.value d) :
    ParserSettings.decoder origin d = .ok (s.overlay d.has) := by
  obtain ⟨members, rfl, h⟩ := Part.exists_members h
  refine h.decoder_eq "ParserConfig" (by decide) (by decide) ?_
  exact Record.gives_make ParserSettings.mk origin members
    |>.withDefault (h.gets 0 rfl (by decide) rfl (Decoder.inverts_text.list _ _))

/-- The settings that are read from a part of them. -/
theorem Settings.decoder_of_part {s : Settings} (h : Part .all s.value d) :
    Settings.decoder origin d = .ok (s.overlay d.has) := by
  obtain ⟨members, rfl, h⟩ := Part.exists_members h
  refine h.decoder_eq "VtraceConfig" (by decide) (by decide) ?_
  exact Record.gives_make Settings.mk origin members
    |>.withDefault (h.gets_table (fun kept => s.engine.overlay kept) 0 rfl rfl
      fun _ h => EngineSettings.decoder_of_part h)
    |>.withDefault (h.gets_table (fun kept => s.launcher.overlay kept) 1 rfl rfl
      fun _ h => LauncherSettings.decoder_of_part h)
    |>.withDefault (h.gets_table (fun kept => s.parser.overlay kept) 2 rfl rfl
      fun _ h => ParserSettings.decoder_of_part h)

/-- The settings of any kind that are read from a part of them. -/
theorem SettingsTable.decoder_of_part {table : SettingsTable} {settings : table.Data}
    (h : Part table (table.value settings) d) :
    table.decoder origin d = .ok (table.overlay d.has settings) := by
  cases table with
  | engine => exact EngineSettings.decoder_of_part h
  | launcher => exact LauncherSettings.decoder_of_part h
  | parser => exact ParserSettings.decoder_of_part h
  | all => exact Settings.decoder_of_part h

/-! ### Written settings -/

open Json.Value (IsWritten)

theorem EngineSettings.isWritten_value (s : EngineSettings) (depth : Nat) :
    s.value.IsWritten (depth + 1) := by
  refine .object (by simp) ?_
  simp only [List.mem_cons, List.not_mem_nil, or_false, forall_eq_or_imp, forall_eq]
  refine ⟨.word _, .word _, ?_, ⟨.bool, rfl⟩, .string _⟩
  cases s.pauseTimeoutMs with
  | none => exact ⟨.null, rfl⟩
  | some n => exact .word n

theorem LauncherSettings.isWritten_value (s : LauncherSettings) (depth : Nat) :
    s.value.IsWritten (depth + 2) := by
  refine .object (by simp) ?_
  simp only [List.mem_cons, List.not_mem_nil, or_false, forall_eq_or_imp, forall_eq]
  have hport : s.inspectPort.toNat < UInt64.size :=
    Nat.lt_trans s.inspectPort.toNat_lt (by decide)
  exact ⟨.string _, .string _, .ofNat hport, .texts _, .word _, .word _⟩

theorem ParserSettings.isWritten_value (s : ParserSettings) (depth : Nat) :
    s.value.IsWritten (depth + 2) := by
  refine .object (by simp) ?_
  simp only [List.mem_cons, List.not_mem_nil, or_false, forall_eq]
  exact .texts _

theorem Settings.isWritten_value (s : Settings) (depth : Nat) :
    s.value.IsWritten (depth + 3) := by
  refine .object (by simp) ?_
  simp only [List.mem_cons, List.not_mem_nil, or_false, forall_eq_or_imp, forall_eq]
  exact ⟨s.engine.isWritten_value _, s.launcher.isWritten_value _, s.parser.isWritten_value _⟩

/-- Settings are nested three deep at most. -/
theorem SettingsTable.isWritten_value (table : SettingsTable) (settings : table.Data) :
    (table.value settings).IsWritten 3 :=
  match table, settings with
  | engine, s => s.isWritten_value _
  | launcher, s => s.isWritten_value _
  | parser, s => s.isWritten_value _
  | all, s => s.isWritten_value _

/-- Settings of which nothing was deleted. -/
theorem SettingsTable.overlay_self (table : SettingsTable) (settings : table.Data) :
    table.overlay (Document.ofValue (table.value settings)).has settings = settings := by
  cases table <;> rfl

/-- Settings that were written, and then revised in any number of places, are read with their old
values in the fields that were kept and with the defaults in those that were deleted.  What was not
revised is read as it was. -/
theorem partial_settings_overlay_defaults (table : SettingsTable) (settings : table.Data)
    (d : Document)
    (hrevised : Relation.ReflTransGen (Revision table) (.ofValue (table.value settings)) d) :
    (∀ v, d = .ofValue v → decodeValue table.decoder v = .ok (table.overlay d.has settings)) ∧
    (∀ text, Document.read (some depthLimit) text = (d, true) →
      decodeText table.decoder text = .ok (table.overlay d.has settings)) ∧
    decodeValue table.decoder (table.value settings) = .ok settings ∧
    decodeText table.decoder (table.value settings).compact = .ok settings := by
  have hself := table.part_self settings
  have hpart : Part table (table.value settings) d := by
    induction hrevised with
    | refl => exact hself
    | tail _ hrevision ih => exact ih.revise hrevision
  have hwhole (origin : Origin) :
      table.decoder origin (.ofValue (table.value settings)) = .ok settings := by
    rw [SettingsTable.decoder_of_part hself, table.overlay_self]
  refine ⟨?_, fun text hread => ?_, hwhole .value, ?_⟩
  · rintro v rfl
    exact SettingsTable.decoder_of_part hpart
  · exact (decodeText_eq_ok_iff _ _ _).2 ⟨d, hread, SettingsTable.decoder_of_part hpart⟩
  · exact (decodeText_eq_ok_iff _ _ _).2
      ⟨_, (table.isWritten_value settings).read_compact (by decide), hwhole .text⟩

/-- Settings with the longest time for requests and no bound for the wait for a pause. -/
def sampleSettings : Settings where
  engine := ⟨18446744073709551615, 5, none, false, .all⟩
  launcher := ⟨"node", "::1", 9229, [], 0, 0⟩
  parser := ⟨["espree"]⟩

/-- The sample without the launcher and without the delay of the engine, with the tables in another
order and with two fields of which nothing is known. -/
def sampleRevised : Value :=
  .object [("theme", .array []), ("parser", .object [("command", .array [.string "espree"])]),
    ("engine", .object [("request_timeout_ms", .ofNat 18446744073709551615),
      ("pause_timeout_ms", .null), ("theme", .string "dark"), ("skip_entry_pause", .bool false),
      ("pause_on_exceptions", .string "all")])]

theorem partial_settings_overlay_defaults_sample :
    Relation.ReflTransGen (Revision .all) (.ofValue sampleSettings.value)
        (.ofValue sampleRevised) ∧
      decodeValue Settings.decoder sampleRevised =
        .ok ⟨⟨18446744073709551615, 2000, none, false, .all⟩, .default, ⟨["espree"]⟩⟩ := by
  have hdelay : Revision .engine (.ofValue sampleSettings.engine.value)
      (.ofValue (.object [("request_timeout_ms", .ofNat 18446744073709551615),
        ("pause_timeout_ms", .null), ("skip_entry_pause", .bool false),
        ("pause_on_exceptions", .string "all")])) :=
    @Revision.delete .engine _ [_] [_, _, _]
  have htheme := @Revision.insert .engine "theme" (.string "dark")
    (Document.ofMembers [("request_timeout_ms", .ofNat 18446744073709551615),
      ("pause_timeout_ms", .null)])
    (Document.ofMembers [("skip_entry_pause", .bool false), ("pause_on_exceptions", .string "all")])
    (by decide) rfl
  have hrevised : Relation.ReflTransGen (Revision .all) (.ofValue sampleSettings.value)
      (.ofValue sampleRevised) :=
    .head (@Revision.inside .all .engine "engine" _ _ [] [_, _] rfl hdelay)
      (.head (@Revision.inside .all .engine "engine" _ _ [] [_, _] rfl htheme)
        (.head (@Revision.delete .all _ [_] [_])
          (.head (.permute (List.Perm.swap _ _ []))
            (.single (@Revision.insert .all "theme" (.array [] true) [] [_, _] (by decide) rfl)))))
  exact ⟨hrevised, (partial_settings_overlay_defaults .all sampleSettings _ hrevised).1 _ rfl⟩

end ValueTrace
