import ValueTrace.Duration
import ValueTrace.Inspector.Payload

/-!
# Settings

What a user may configure about tracing, about starting the debuggee and about parsing source
files.  Every field has a default, so partial tables are settings too.  Times are kept as whole
milliseconds of 64 bits.

## Main definitions

* `EngineSettings`, `LauncherSettings`, `ParserSettings`, `Settings` : the settings.
* their `decoder` and `value` functions : settings as data.
* `EngineSettings.requestBound` : the bound of a request, which a time of zero removes.
-/

namespace ValueTrace

open Json (Value Decoder Record)
open Inspector (PauseOnExceptions)

/-- A natural number of 64 bits as JSON. -/
private def wordValue (n : UInt64) : Value := .ofNat n.toNat

/-- A list of texts as JSON. -/
private def textsValue (texts : List String) : Value := .array (texts.map .string)

/-- How a debuggee is stepped through. -/
structure EngineSettings where
  requestTimeoutMs : UInt64
  settleDelayMs : UInt64
  pauseTimeoutMs : Option UInt64
  skipEntryPause : Bool
  pauseOnExceptions : PauseOnExceptions
deriving DecidableEq

namespace EngineSettings

/-- The settings in effect when nothing is configured. -/
def default : EngineSettings := ⟨10000, 2000, none, true, .uncaught⟩

instance : Inhabited EngineSettings := ⟨default⟩

/-- Reads settings; missing fields have their defaults. -/
def decoder : Decoder EngineSettings :=
  Record.make EngineSettings.mk
    |>.withDefault "request_timeout_ms" Decoder.uint64 default.requestTimeoutMs
    |>.withDefault "settle_delay_ms" Decoder.uint64 default.settleDelayMs
    |>.optional "pause_timeout_ms" Decoder.uint64
    |>.withDefault "skip_entry_pause" Decoder.flag default.skipEntryPause
    |>.withDefault "pause_on_exceptions" PauseOnExceptions.decoder default.pauseOnExceptions
    |>.decoder "EngineConfig"

/-- The settings as JSON. -/
def value (s : EngineSettings) : Value :=
  .object [("request_timeout_ms", wordValue s.requestTimeoutMs),
    ("settle_delay_ms", wordValue s.settleDelayMs),
    ("pause_timeout_ms", match s.pauseTimeoutMs with
      | some n => wordValue n
      | none => .null),
    ("skip_entry_pause", .bool s.skipEntryPause),
    ("pause_on_exceptions", .string s.pauseOnExceptions.name)]

/-- The settings with another time for requests. -/
def withRequestTimeout (s : EngineSettings) (d : Duration) : EngineSettings :=
  { s with requestTimeoutMs := d.millis }

/-- The settings with another delay after the end of the debuggee. -/
def withSettleDelay (s : EngineSettings) (d : Duration) : EngineSettings :=
  { s with settleDelayMs := d.millis }

/-- The settings with another bound, or none, for the wait for a pause. -/
def withPauseTimeout (s : EngineSettings) (d : Option Duration) : EngineSettings :=
  { s with pauseTimeoutMs := d.map Duration.millis }

/-- The settings with the entry pause skipped or not. -/
def withSkipEntryPause (s : EngineSettings) (skip : Bool) : EngineSettings :=
  { s with skipEntryPause := skip }

/-- The time a request may take. -/
def requestTimeout (s : EngineSettings) : Duration := .ofMillis s.requestTimeoutMs

/-- The delay between the end of the debuggee and the reading of results. -/
def settleDelay (s : EngineSettings) : Duration := .ofMillis s.settleDelayMs

/-- The bound of every wait for a pause, if there is one. -/
def pauseTimeout (s : EngineSettings) : Option Duration := s.pauseTimeoutMs.map .ofMillis

/-- The bound of every request; a time of zero means that requests wait forever. -/
def requestBound (s : EngineSettings) : Option Duration :=
  if 0 < s.requestTimeoutMs then some s.requestTimeout else none

end EngineSettings

/-- How the debuggee is started. -/
structure LauncherSettings where
  nodeBinary : String
  inspectHost : String
  inspectPort : UInt16
  scriptArgs : List String
  launchTimeoutMs : UInt64
  exitGraceMs : UInt64
deriving DecidableEq

namespace LauncherSettings

/-- The settings in effect when nothing is configured. -/
def default : LauncherSettings := ⟨"node", "127.0.0.1", 0, ["--vtrace"], 10000, 1000⟩

instance : Inhabited LauncherSettings := ⟨default⟩

/-- Reads settings; missing fields have their defaults. -/
def decoder : Decoder LauncherSettings :=
  Record.make LauncherSettings.mk
    |>.withDefault "node_binary" Decoder.text default.nodeBinary
    |>.withDefault "inspect_host" Decoder.text default.inspectHost
    |>.withDefault "inspect_port" Decoder.uint16 default.inspectPort
    |>.withDefault "script_args" (Decoder.list Decoder.text) default.scriptArgs
    |>.withDefault "launch_timeout_ms" Decoder.uint64 default.launchTimeoutMs
    |>.withDefault "exit_grace_ms" Decoder.uint64 default.exitGraceMs
    |>.decoder "LauncherConfig"

/-- The settings as JSON. -/
def value (s : LauncherSettings) : Value :=
  .object [("node_binary", .string s.nodeBinary), ("inspect_host", .string s.inspectHost),
    ("inspect_port", .ofNat s.inspectPort.toNat), ("script_args", textsValue s.scriptArgs),
    ("launch_timeout_ms", wordValue s.launchTimeoutMs),
    ("exit_grace_ms", wordValue s.exitGraceMs)]

/-- The settings with another interpreter. -/
def withNodeBinary (s : LauncherSettings) (binary : String) : LauncherSettings :=
  { s with nodeBinary := binary }

/-- The interpreter flag that opens the inspector and halts before the first statement. -/
def inspectFlag (s : LauncherSettings) : String :=
  "--inspect-brk=" ++ s.inspectHost ++ ":" ++ toString s.inspectPort.toNat

/-- The time in which the debuggee must announce its inspector. -/
def launchTimeout (s : LauncherSettings) : Duration := .ofMillis s.launchTimeoutMs

/-- The time in which a finished debuggee must exit by itself. -/
def exitGrace (s : LauncherSettings) : Duration := .ofMillis s.exitGraceMs

end LauncherSettings

/-- How source files are parsed. -/
structure ParserSettings where
  /-- The program and its leading arguments. -/
  command : List String
deriving DecidableEq

namespace ParserSettings

/-- The settings in effect when nothing is configured. -/
def default : ParserSettings := ⟨["acorn", "--ecma2022", "--locations", "--allow-hash-bang"]⟩

instance : Inhabited ParserSettings := ⟨default⟩

/-- Reads settings; a missing command has its default. -/
def decoder : Decoder ParserSettings :=
  Record.make ParserSettings.mk
    |>.withDefault "command" (Decoder.list Decoder.text) default.command
    |>.decoder "ParserConfig"

/-- The settings as JSON. -/
def value (s : ParserSettings) : Value := .object [("command", textsValue s.command)]

end ParserSettings

/-- All settings. -/
structure Settings where
  engine : EngineSettings
  launcher : LauncherSettings
  parser : ParserSettings
deriving DecidableEq

namespace Settings

/-- The settings in effect when nothing is configured. -/
def default : Settings := ⟨.default, .default, .default⟩

instance : Inhabited Settings := ⟨default⟩

/-- Reads settings; missing parts have their defaults. -/
def decoder : Decoder Settings :=
  Record.make Settings.mk
    |>.withDefault "engine" EngineSettings.decoder default.engine
    |>.withDefault "launcher" LauncherSettings.decoder default.launcher
    |>.withDefault "parser" ParserSettings.decoder default.parser
    |>.decoder "VtraceConfig"

/-- The settings as JSON. -/
def value (s : Settings) : Value :=
  .object [("engine", s.engine.value), ("launcher", s.launcher.value), ("parser", s.parser.value)]

end Settings

end ValueTrace
