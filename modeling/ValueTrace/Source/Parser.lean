import ValueTrace.Host
import ValueTrace.Settings
import ValueTrace.Source.Diagnostic
import ValueTrace.Tree.Reader

/-!
# Parsing source files

The syntax tree of a source file is read from a file that was made before, or comes from a program
that writes it.  Only a source that the parser itself rejects is a syntax error; everything else
says that the parser could not do its work.

## Main definitions

* `ParseError`, `ParseError.message` : why a source file has no syntax tree.
* `Parser`, `Parser.parse` : where syntax trees come from.
* `ProgramOutput.tree` : what a parser's output says about a source.
-/

namespace ValueTrace

/-- Why a source file has no syntax tree. -/
inductive ParseError where
  | rejected (path : FilePath) (message : String)
  | unreadable (path : FilePath) (error : FileError)
  | unavailable (message : String)
  | unusable (error : TreeError)

namespace ParseError

/-- The wording of a parser's output that is no syntax tree. -/
def unusableText (reason : String) : String :=
  "parser produced an unusable syntax tree: " ++ reason

/-- The wording of a failure. -/
def message : ParseError → String
  | .rejected path message => path.text ++ " could not be parsed: " ++ message
  | .unreadable path error => "failed to read " ++ path.text ++ ": " ++ error.message
  | .unavailable message => "parser unavailable: " ++ message
  | .unusable error => unusableText error.message

end ParseError

/-- The program that a text describes, as a parser's result. -/
def readTree (text : String) : Except ParseError Program :=
  match Program.ofText? text with
  | .ok p => .ok p
  | .error e => .error (.unusable e)

/-- What a parser's output says about the source at a path. -/
def ProgramOutput.tree (out : ProgramOutput) (program : String) (path : FilePath) :
    Except ParseError Program :=
  if out.status.isSuccess then readTree (Text.ofUtf8Lossy out.output)
  else
    let message := String.ofList (Text.trim (Text.ofUtf8Lossy out.diagnostics).toList)
    if out.status = .code 1 ∧ Diagnostic.isSyntax message then .error (.rejected path message)
    else
      .error (.unavailable (program ++ " failed (" ++ out.status.text ++ "): " ++ message))

/-- Where syntax trees come from. -/
inductive Parser where
  /-- A file with the tree of any source. -/
  | file (tree : FilePath)
  /-- A program and its leading arguments. -/
  | command (command : List String)
deriving DecidableEq, Repr

namespace Parser

variable {m : Type → Type} [Monad m]

/-- The parser for a tree that was made before, or else the configured one. -/
def select (tree : Option FilePath) (settings : ParserSettings) : Parser :=
  match tree with
  | some path => .file path
  | none => .command settings.command

/-- Reads a tree from a file. -/
def parseFile (host : Host m) (tree : FilePath) : m (Except ParseError Program) := do
  match ← host.readText tree with
  | .error e => return .error (.unreadable tree e)
  | .ok text => return readTree text

/-- Runs a program on a source, which must exist. -/
def runCommand (host : Host m) (command : List String) (path : FilePath) :
    m (Except ParseError Program) := do
  match ← host.probe path with
  | .error e => return .error (.unreadable path e)
  | .ok _ =>
    match command with
    | [] => return .error (.unavailable "parser command is empty")
    | program :: arguments =>
      match ← host.run ⟨program, arguments.map .ofText ++ [path], none⟩ with
      | .error e => return .error (.unavailable (program ++ ": " ++ e.message))
      | .ok out => return out.tree program path

/-- The syntax tree of the source at a path. -/
def parse (p : Parser) (host : Host m) (path : FilePath) : m (Except ParseError Program) :=
  match p with
  | .file tree => parseFile host tree
  | .command words => runCommand host words path

end Parser

end ValueTrace
