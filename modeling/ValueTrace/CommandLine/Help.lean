import ValueTrace.CommandLine.Invocation
import ValueTrace.Text.Terminal

/-!
# Explanations

What the program says of itself: a summary, the usage, and a line for each command, operand and
option, with the labels in a column.  The full explanation of a command gives each option a
paragraph, in which the text stands below its label, and lists the values that may be chosen.  A
text of several lines is indented as its first line is.

## Main definitions

* `Part` : a label with what is said of it.
* `layOut` : the lines of a section.
* `explain` : the text about a topic.
-/

namespace ValueTrace.CommandLine

/-- A label with what is said of it: a text, remarks in brackets, and values to choose from. -/
structure Part where
  label : String
  text : String
  remarks : List String
  choices : List (String × String)

/-- The text that names the program and its version. -/
def versionText : String := "vtrace 0.1.0\n"

/-! ### Layout -/

/-- So many spaces. -/
def spaces (n : Nat) : String := String.ofList (List.replicate n ' ')

/-- The width of the widest label. -/
def columnWidth (parts : List Part) : Nat := (parts.map (·.label.length)).foldl max 2

/-- A text whose further lines are indented. -/
def indent (n : Nat) (text : String) : String :=
  ("\n" ++ spaces n).intercalate (text.splitOn "\n")

/-- A part on a line of its own, beside a column of a given width. -/
def Part.row (width : Nat) (p : Part) : String :=
  "  " ++ p.label ++ spaces (width - p.label.length) ++ "  "
    ++ indent (width + 4) (" ".intercalate (p.text :: p.remarks))

/-- The start of a line below a label. -/
def below : String := "\n" ++ spaces 10

/-- A part in a paragraph of its own. -/
def Part.paragraph (p : Part) : String :=
  let choices :=
    if p.choices.isEmpty then ""
    else "\n" ++ below ++ "Possible values:"
      ++ String.join (p.choices.map fun (value, text) => below ++ "- " ++ value ++ ": " ++ text)
  let remarks :=
    if p.remarks.isEmpty then ""
    else below ++ below ++ below.intercalate (p.remarks.map (indent 10))
  "  " ++ p.label ++ below ++ p.text ++ choices ++ remarks

/-- The lines of a section. -/
def layOut (full : Bool) (parts : List Part) : String :=
  if full then "\n\n".intercalate (parts.map Part.paragraph)
  else "\n".intercalate (parts.map (Part.row (columnWidth parts)))

/-! ### Contents -/

/-- The label of an option: its letter, its name, and a name for its value. -/
def OptionSpec.label (s : OptionSpec) : String :=
  let letter := match s.letter with
    | some c => String.ofList ['-', c, ',', ' ']
    | none => spaces 4
  let value :=
    if s.takesValue then
      " <" ++ s.name.map (fun c => if c = '-' then '_' else c.toUpper) ++ ">"
    else ""
  letter ++ "--" ++ s.name ++ value

/-- What is said of an option. -/
def optionText (topic : Topic) (full : Bool) (name : String) : String :=
  match name, topic with
  | "config", _ => "Configuration file (default: ./vtrace.toml, then ~/.vtrace.toml)"
  | "verbose", _ => "Log at debug level"
  | "log-file", _ => "Also write a rolling log file"
  | "version", _ => "Print version"
  | "help", .program => "Print help"
  | "help", _ =>
    if full then "Print help (see a summary with '-h')" else "Print help (see more with '--help')"
  | "line", .trace => "Breakpoint line (1-based)"
  | "line", _ => "Cursor line (1-based)"
  | "scope-line", _ => "Line the enclosing scope starts at (1-based, default: start of the file)"
  | "scope-column", _ => "Column the enclosing scope starts at (1-based)"
  | "entry", _ =>
    "File to run instead of the traced one (default: package.json `main`, else the file itself)"
  | "cwd", _ => "Working directory of the program (default: the current directory)"
  | "ast", _ => "Pre-computed ESTree JSON of the file, instead of running the parser"
  | "format", _ => "Output format"
  | "node", _ => "Interpreter executable"
  | "settle-ms", _ => "Delay after the program ends before results are read, in milliseconds"
  | "timeout-ms", _ => "Per-request timeout in milliseconds, 0 to wait forever"
  | _, _ => ""

/-- A variable that stands in for an option, with its value. -/
def variableRemark (name : String) (value : Option String) : String :=
  "[env: " ++ name ++ "=" ++ value.getD "" ++ "]"

/-- The remarks on an option. -/
def optionRemarks (full : Bool) (vars : Variables) (name : String) : List String :=
  match name with
  | "config" => [variableRemark "VTRACE_CONFIG" vars.config]
  | "node" => [variableRemark "VTRACE_NODE" vars.node]
  | "format" =>
    if full then ["[default: text]"] else ["[default: text]", "[possible values: text, json]"]
  | "scope-line" | "scope-column" => ["[default: 1]"]
  | _ => []

/-- The part of an option. -/
def OptionSpec.part (topic : Topic) (full : Bool) (vars : Variables) (s : OptionSpec) : Part where
  label := s.label
  text := optionText topic full s.name
  remarks := optionRemarks full vars s.name
  choices :=
    if full && s.name = "format" then [("text", "One line per value"), ("json", "JSON array")]
    else []

/-- The summary of a topic. -/
def Topic.summary : Topic → String
  | .program => "JavaScript Value Tracer - record what your expressions evaluate to at a line"
  | .trace => "Run a program and trace the values of the expressions in scope at a line"
  | .analyze => "List the expressions that would be traced at a line without running anything"
  | .help => "Print this message or the help of the given subcommand(s)"

/-- The usage of a topic. -/
def Topic.usage : Topic → String
  | .program => "vtrace [OPTIONS] <COMMAND>"
  | .trace => "vtrace trace [OPTIONS] --line <LINE> <FILE>"
  | .analyze => "vtrace analyze [OPTIONS] --line <LINE> <FILE>"
  | .help => "vtrace help [COMMAND]..."

/-- The sections of a topic with their headings. -/
def Topic.sections (topic : Topic) (full : Bool) (vars : Variables) : List (String × List Part) :=
  let options (specs : List OptionSpec) := ("Options", specs.map (·.part topic full vars))
  match topic with
  | .program =>
    [("Commands",
      [⟨"trace", Topic.trace.summary, [], []⟩, ⟨"analyze", Topic.analyze.summary, [], []⟩,
       ⟨"help", Topic.help.summary, [], []⟩]),
     options rootSpecs]
  | .trace =>
    [("Arguments", [⟨"<FILE>", "File to set the breakpoint in", [], []⟩]), options traceSpecs]
  | .analyze => [("Arguments", [⟨"<FILE>", "File to analyze", [], []⟩]), options analyzeSpecs]
  | .help =>
    [("Arguments", [⟨"[COMMAND]...", "Print help for the subcommand(s)", [], []⟩])]

/-- Whether a topic has a full explanation that differs from the short one: it has values to choose
from. -/
def Topic.hasFull : Topic → Bool
  | .trace | .analyze => true
  | .program | .help => false

/-- The text about a topic, in full if it has a full one.  Values of variables may hold anything,
so control sequences are left out. -/
def explain (topic : Topic) (full : Bool) (vars : Variables) : String :=
  let full := full && topic.hasFull
  let sections := (topic.sections full vars).map fun (heading, parts) =>
    "\n\n" ++ heading ++ ":\n" ++ layOut full parts
  Text.withoutControls
    (topic.summary ++ "\n\nUsage: " ++ topic.usage ++ String.join sections ++ "\n")

end ValueTrace.CommandLine
