import ValueTrace.Host
import ValueTrace.Json.Decode
import ValueTrace.Session.Basic

/-!
# Projects

Which file to run.  A traced file is often a module of a larger program; when the working directory
has a manifest that names a main file, that file is run instead of the traced one.

## Main definitions

* `ProjectError`, with `message` : why there is nothing to run.
* `Project.main?` : the main file of a directory.
* `Project.request` : the request for a traced file.
-/

namespace ValueTrace

open Json (Decoder Record)

/-- Why there is nothing to run. -/
inductive ProjectError where
  | noFile (path : FilePath)
  | unreadable (manifest : FilePath) (error : FileError)
  | malformed (manifest : FilePath)

/-- The wording of an error. -/
def ProjectError.message : ProjectError → String
  | .noFile path => path.text ++ " does not exist or is not a file"
  | .unreadable manifest _ => "Failed to read " ++ manifest.text
  | .malformed manifest => "Failed to parse " ++ manifest.text

namespace Project

variable {m : Type → Type} [Monad m]

/-- Reads the main file that a manifest names. -/
def manifestMain : Decoder (Option String) :=
  Record.make id
    |>.nullable "main" Decoder.text
    |>.decoder "PackageManifest"

/-- The manifest of a directory. -/
def manifest (dir : FilePath) : FilePath := dir.join (.ofText "package.json")

/-- The file that the text of a directory's manifest names; an empty name names none. -/
def mainOfText (dir : FilePath) (text : String) : Except ProjectError (Option FilePath) :=
  match Json.decodeText manifestMain text with
  | .error _ => .error (.malformed (manifest dir))
  | .ok name =>
    .ok ((name.filter fun name => !name.isEmpty).map fun name => dir.join (.ofText name))

/-- The main file of a directory, if its manifest names one. -/
def main? (host : Host m) (dir : FilePath) : m (Except ProjectError (Option FilePath)) := do
  if ← host.isFile (manifest dir) then
    match ← host.readText (manifest dir) with
    | .error e => return .error (.unreadable (manifest dir) e)
    | .ok text => return mainOfText dir text
  else return .ok none

/-- The request for a file and a line.  The file to run is the one given, or else the main file of
the working directory, or else the traced file itself. -/
def request (host : Host m) (file : FilePath) (line : UInt32) (entry workingDir : Option FilePath) :
    m (Except ProjectError TraceRequest) := do
  if ← host.isFile file then
    let dir ← match workingDir with
      | some dir => pure dir
      | none => host.currentDirectory
    let plain := (TraceRequest.ofTarget file line).withWorkingDir dir
    match entry with
    | some entry => return .ok (plain.withEntry entry)
    | none =>
      match ← main? host dir with
      | .error e => return .error e
      | .ok (some main) => return .ok (plain.withEntry main)
      | .ok none => return .ok plain
  else return .error (.noFile file)

end Project

end ValueTrace
