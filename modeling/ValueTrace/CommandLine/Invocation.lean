import ValueTrace.CommandLine.Arguments
import ValueTrace.Path.Basic

/-!
# Invocations

What a command line asks for.  The first fault in order of the arguments decides; then missing
arguments and the variables that stand in for options count.  A value that is an argument of its own
is looked at when the next option is, so the last one before the command is looked at after it.

## Main definitions

* `Invocation`, `Command`, `TraceOptions`, `AnalyzeOptions` : what can be asked for.
* `Topic`, `Reading` : what can be explained, and what a command line turns out to be.
* `read` : the reading of a command line.
-/

namespace ValueTrace.CommandLine

/-- How results are written. -/
inductive OutputFormat where
  | text
  | json
deriving DecidableEq, Repr

/-- What to trace and how. -/
structure TraceOptions where
  file : FilePath
  /-- The line of the breakpoint, from 1. -/
  line : UInt32
  entry : Option FilePath
  workingDir : Option FilePath
  tree : Option FilePath
  format : OutputFormat
  node : Option String
  settleMs : Option UInt64
  timeoutMs : Option UInt64
deriving DecidableEq, Repr

/-- What to analyze and how. -/
structure AnalyzeOptions where
  file : FilePath
  /-- The line of the cursor, from 1. -/
  line : UInt32
  /-- The place where the scope begins, from 1. -/
  scopeLine : UInt32
  scopeColumn : UInt32
  tree : Option FilePath
  format : OutputFormat
deriving DecidableEq, Repr

/-- A command. -/
inductive Command where
  | trace (options : TraceOptions)
  | analyze (options : AnalyzeOptions)
deriving DecidableEq, Repr

/-- A command with the options of all commands. -/
structure Invocation where
  config : Option FilePath
  logFile : Bool
  command : Command
deriving DecidableEq, Repr

/-- What can be explained. -/
inductive Topic where
  | program
  | trace
  | analyze
  | help
deriving DecidableEq, Repr

/-- What a command line turns out to be. -/
inductive Reading where
  | run (invocation : Invocation)
  | version
  /-- An explanation in full or in short. -/
  | help (topic : Topic) (full : Bool)
  | faulty
deriving DecidableEq, Repr

/-! ### Options -/

/-- The settings file. -/
def configSpec : OptionSpec := ⟨"config", none, true⟩

/-- More in the log. -/
def verboseSpec : OptionSpec := ⟨"verbose", some 'v', false⟩

/-- A log in a file. -/
def logFileSpec : OptionSpec := ⟨"log-file", none, false⟩

/-- An explanation. -/
def helpSpec : OptionSpec := ⟨"help", some 'h', false⟩

/-- The line of interest. -/
def lineSpec : OptionSpec := ⟨"line", some 'l', true⟩

/-- The options before the command, in the order in which they are explained. -/
def rootSpecs : List OptionSpec :=
  [configSpec, verboseSpec, logFileSpec, helpSpec, ⟨"version", some 'V', false⟩]

/-- The options of tracing, in the order in which they are explained. -/
def traceSpecs : List OptionSpec :=
  [configSpec, lineSpec, ⟨"entry", none, true⟩, verboseSpec, ⟨"cwd", none, true⟩, logFileSpec,
   ⟨"ast", none, true⟩, ⟨"format", none, true⟩, ⟨"node", none, true⟩,
   ⟨"settle-ms", none, true⟩, ⟨"timeout-ms", none, true⟩, helpSpec]

/-- The options of analyzing, in the order in which they are explained. -/
def analyzeSpecs : List OptionSpec :=
  [configSpec, lineSpec, ⟨"scope-line", none, true⟩, verboseSpec, logFileSpec,
   ⟨"scope-column", none, true⟩, ⟨"ast", none, true⟩, ⟨"format", none, true⟩, helpSpec]

/-! ### Values -/

/-- A natural number in decimal digits, perhaps with a plus sign. -/
def natural? (text : String) : Option Nat :=
  let digits := match text.toList with
    | '+' :: rest => rest
    | chars => chars
  if digits.isEmpty || !digits.all Char.isDigit then none
  else some (Nat.ofDigitChars 10 digits 0)

/-- A line or column from 1, in 32 bits. -/
def coordinate? (text : String) : Option UInt32 :=
  (natural? text).bind fun n =>
    if 1 ≤ n ∧ n < UInt32.size then some (UInt32.ofNat n) else none

/-- A number of milliseconds, in 64 bits. -/
def millis? (text : String) : Option UInt64 :=
  (natural? text).bind fun n => if n < UInt64.size then some (UInt64.ofNat n) else none

/-- A path, which must not be empty. -/
def path? (text : String) : Option FilePath :=
  if text.isEmpty then none else some (.ofText text)

/-- A format by its name. -/
def format? (text : String) : Option OutputFormat :=
  match text with
  | "text" => some .text
  | "json" => some .json
  | _ => none

/-- Whether the value of an option can be read. -/
def isValid (name value : String) : Bool :=
  match name with
  | "line" | "scope-line" | "scope-column" => (coordinate? value).isSome
  | "settle-ms" | "timeout-ms" => (millis? value).isSome
  | "format" => (format? value).isSome
  | "config" | "entry" | "cwd" | "ast" => (path? value).isSome
  | _ => true

/-! ### Arguments taken together -/

/-- The arguments taken so far. -/
structure Taken where
  flags : List String
  values : List (String × String)
  operand : Option String

/-- Nothing taken. -/
def Taken.none : Taken := ⟨[], [], Option.none⟩

/-- The value of an option. -/
def Taken.value? (t : Taken) (name : String) : Option String :=
  (t.values.find? fun v => v.1 = name).map Prod.snd

/-- Takes an argument, unless it was given before or cannot be read. -/
def Taken.add (t : Taken) : Argument → Option Taken
  | .flag name _ =>
    if t.flags.contains name then Option.none else some { t with flags := name :: t.flags }
  | .value name v _ =>
    if (t.value? name).isSome || !isValid name v then Option.none
    else some { t with values := (name, v) :: t.values }
  | .operand text =>
    if t.operand.isSome || (path? text).isNone then Option.none
    else some { t with operand := some text }

/-- What taking some arguments leads to. -/
inductive Progress where
  | taken (t : Taken)
  | done (reading : Reading)

/-- Takes arguments in order.  A request for help with a topic or for the version ends the
reading. -/
def takeAll (topic : Topic) (t : Taken) : List Argument → Progress
  | [] => .taken t
  | .flag "version" _ :: _ => .done .version
  | .flag "help" byLetter :: _ => .done (.help topic !byLetter)
  | arg :: rest =>
    match t.add arg with
    | some t => takeAll topic t rest
    | none => .done .faulty

/-- The variables that stand in for options. -/
structure Variables where
  config : Option String
  node : Option String

/-- A required value and those that may be missing, read together. -/
def traceOptions (t : Taken) (vars : Variables) : Option TraceOptions := do
  let file ← t.operand.bind path?
  let line ← (t.value? "line").bind coordinate?
  return {
    file, line
    entry := (t.value? "entry").bind path?
    workingDir := (t.value? "cwd").bind path?
    tree := (t.value? "ast").bind path?
    format := ((t.value? "format").bind format?).getD .text
    node := (t.value? "node").or vars.node
    settleMs := (t.value? "settle-ms").bind millis?
    timeoutMs := (t.value? "timeout-ms").bind millis? }

/-- The options of analyzing; the scope is the whole file by default. -/
def analyzeOptions (t : Taken) : Option AnalyzeOptions := do
  let file ← t.operand.bind path?
  let line ← (t.value? "line").bind coordinate?
  return {
    file, line
    scopeLine := ((t.value? "scope-line").bind coordinate?).getD 1
    scopeColumn := ((t.value? "scope-column").bind coordinate?).getD 1
    tree := (t.value? "ast").bind path?
    format := ((t.value? "format").bind format?).getD .text }

/-- The settings file: an option after the command wins over one before it, and both over the
variable.  The variable stands in wherever the option is missing, before the command and after it,
and must not be empty if it does. -/
def configPath (root command : Taken) (vars : Variables) : Option (Option FilePath) :=
  let given := (command.value? "config").or (root.value? "config")
  let everywhere := (command.value? "config").isSome && (root.value? "config").isSome
  match vars.config with
  | none => some (given.bind path?)
  | some text =>
    if text.isEmpty && !everywhere then none else some (path? (given.getD text))

/-- The topic that arguments of the command `help` name: the program, or one of its commands, which
have no commands of their own. -/
def helpTopic : List String → Option Topic
  | [] => some .program
  | ["trace"] => some .trace
  | ["analyze"] => some .analyze
  | ["help"] => some .help
  | _ => none

/-- The reading of the arguments of a command.  The arguments before it are taken already, except
for some that are taken last. -/
def readCommand (topic : Topic) (specs : List OptionSpec)
    (command? : Taken → Option Command) (args : List String) (root : Taken)
    (pending : List Argument) (vars : Variables) : Reading :=
  let (found, ending) := scan specs false args.length args
  match takeAll topic .none found with
  | .done reading => reading
  | .taken t =>
    match ending, takeAll .program root pending, command? t with
    | .complete, .taken root, some command =>
      match configPath root t vars with
      | some config =>
        .run ⟨config, root.flags.contains "log-file" || t.flags.contains "log-file", command⟩
      | none => .faulty
    | _, _, _ => .faulty

/-- The arguments before a command without the last one, if its value is an argument of its own,
and that last one. -/
def splitPending (args : List Argument) : List Argument × List Argument :=
  match args.getLast? with
  | some (.value name v false) => (args.dropLast, [.value name v false])
  | _ => (args, [])

/-- The reading of a command line. -/
def read (args : List String) (vars : Variables) : Reading :=
  let (found, ending) := scan rootSpecs true args.length args
  let (first, pending) := splitPending found
  match takeAll .program .none first, ending with
  | .done reading, _ => reading
  | .taken root, .stopped "trace" rest =>
    readCommand .trace traceSpecs
      (fun t => (traceOptions t vars).map .trace) rest root pending vars
  | .taken root, .stopped "analyze" rest =>
    readCommand .analyze analyzeSpecs (fun t => (analyzeOptions t).map .analyze)
      rest root pending vars
  | .taken _, .stopped "help" rest =>
    match helpTopic rest with
    | some topic => .help topic true
    | none => .faulty
  | .taken _, _ => .faulty

end ValueTrace.CommandLine
