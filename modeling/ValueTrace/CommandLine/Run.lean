import ValueTrace.CommandLine.Help
import ValueTrace.EnvironmentFile
import ValueTrace.Project
import ValueTrace.Report
import ValueTrace.Scope.Analysis
import ValueTrace.Settings.File
import ValueTrace.Source.Parser

/-!
# Commands

Running a command line on a host: the environment file is loaded, the arguments are read, the log
directory is made if it is wanted, the settings are loaded, and the command is run.

## Main definitions

* `Failure` : an error as a user sees it.
* `Outcome` : the end of a run.
* `analyze`, `trace`, `run` : the commands and the whole.
-/

namespace ValueTrace.CommandLine

/-- An error as a user sees it. -/
structure Failure where
  headline : String
  /-- What the error comes from. -/
  cause : Option String
deriving DecidableEq, Repr

/-- The end of a run. -/
structure Outcome where
  exitCode : Nat
  output : String
  failure : Option Failure
deriving DecidableEq, Repr

namespace Outcome

/-- A run that succeeds. -/
def success (output : String) : Outcome := ⟨0, output, none⟩

/-- A run that fails. -/
def failed (headline : String) (cause : Option String) : Outcome := ⟨1, "", some ⟨headline, cause⟩⟩

/-- A command line that cannot be read. -/
def faulty : Outcome := ⟨2, "", none⟩

/-- A run that ends with writing lines.  It breaks down at the first one that cannot be put
together. -/
def printed (lines : List (Option String)) : Outcome :=
  ⟨if lines.all Option.isSome then 0 else 101, Report.written lines, none⟩

end Outcome

variable {m : Type → Type} [Monad m]

/-- Runs a trace of a request. -/
abbrev Tracer (m : Type → Type) :=
  EngineSettings → LauncherSettings → Parser → TraceRequest → m (Except SessionError TraceResult)

/-- Lists the expressions that would be traced. -/
def analyze (host : Host m) (options : AnalyzeOptions) (settings : Settings) : m Outcome := do
  match ← (Parser.select options.tree settings.parser).parse host options.file with
  | .error e => return .failed ("Failed to parse " ++ options.file.text) (some e.message)
  | .ok program =>
    let scope : ScopeStart := ⟨options.scopeLine - 1, options.scopeColumn - 1⟩
    let found := program.candidates scope (options.line - 1)
    match options.format with
    | .text => return .printed (Report.candidateLines options.file found)
    | .json => return .success (Report.json (found.map Candidate.value))

/-- The settings with what the command line overrides. -/
def TraceOptions.override (options : TraceOptions) (settings : Settings) : Settings :=
  let launcher := match options.node with
    | some node => settings.launcher.withNodeBinary node
    | none => settings.launcher
  let settled := match options.settleMs with
    | some ms => settings.engine.withSettleDelay (.ofMillis ms)
    | none => settings.engine
  let engine := match options.timeoutMs with
    | some ms => { settled with requestTimeoutMs := ms }
    | none => settled
  { settings with launcher, engine }

/-- Traces a program and reports the values. -/
def trace (host : Host m) (tracer : Tracer m) (options : TraceOptions) (settings : Settings) :
    m Outcome := do
  let settings := options.override settings
  match ← Project.request host options.file (options.line - 1) options.entry options.workingDir with
  | .error e => return .failed "Failed to resolve what to run" (some e.message)
  | .ok request =>
    let parser := Parser.select options.tree settings.parser
    match ← tracer settings.engine settings.launcher parser request with
    | .error .superseded => return .failed "Trace cancelled" none
    | .error e => return .failed ("Failed to trace " ++ options.file.text) (some e.message)
    | .ok result =>
      match options.format with
      | .text => return .printed (Report.traceLines options.file result)
      | .json => return .success (Report.json (result.records.map TraceRecord.value))

/-- The directory of log files under the directory for temporary files. -/
def logDirectory (temporary : Option String) : FilePath :=
  (FilePath.ofText (temporary.getD "/tmp")).join (.ofText "vtrace-logs/vtrace")

/-- Runs an invocation. -/
def runInvocation (host : Host m) (tracer : Tracer m) (getVariable : String → m (Option String))
    (invocation : Invocation) : m Outcome := do
  let logged ←
    if invocation.logFile then do
      host.createDirectories (logDirectory (← getVariable "TMPDIR"))
    else pure (.ok ())
  match logged with
  | .error e => return .failed e.message none
  | .ok () =>
    let home := ((← getVariable "HOME").filter fun home => !home.isEmpty).map FilePath.ofText
    match ← Settings.load host invocation.config home with
    | .error e => return .failed e.message e.cause
    | .ok settings =>
      match invocation.command with
      | .trace options => trace host tracer options settings
      | .analyze options => analyze host options settings

/-- Runs a command line. -/
def run (host : Host m) (tracer : Tracer m) (args : List String) : m Outcome := do
  let given ← EnvironmentFile.load host
  let getVariable := EnvironmentFile.lookup host given
  let vars : Variables := ⟨← getVariable "VTRACE_CONFIG", ← getVariable "VTRACE_NODE"⟩
  match read args vars with
  | .version => return .success versionText
  | .help topic full => return .success (explain topic full vars)
  | .faulty => return .faulty
  | .run invocation => runInvocation host tracer getVariable invocation

end ValueTrace.CommandLine
