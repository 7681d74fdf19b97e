import ValueTrace.Host
import ValueTrace.Settings
import ValueTrace.Toml.Document

/-!
# Settings files

Settings are read from a file that is named explicitly, or from the first of the usual files that
exists, or else they are the defaults.

## Main definitions

* `SettingsError`, with `message` and `cause` : why settings cannot be read.
* `Settings.ofText?` : settings from a text.
* `Settings.load`, `Settings.loadFirst` : settings from files.
-/

namespace ValueTrace

/-- Why a settings file cannot be used. -/
inductive SettingsError where
  | unreadable (path : FilePath) (error : FileError)
  | malformed (path : FilePath)

namespace SettingsError

/-- The wording of an error. -/
def message : SettingsError → String
  | .unreadable path _ => "Failed to read config file: " ++ path.text
  | .malformed path => "Failed to parse config file as TOML: " ++ path.text

/-- What an error comes from, if it has a wording of its own. -/
def cause : SettingsError → Option String
  | .unreadable _ error => some error.message
  | .malformed _ => none

end SettingsError

namespace Settings

variable {m : Type → Type} [Monad m]

/-- The settings that a text contains. -/
def ofText? (text : String) : Option Settings :=
  match Toml.read text with
  | some doc => (decoder .table doc).toOption
  | none => none

/-- The settings in a file. -/
def ofFile (host : Host m) (path : FilePath) : m (Except SettingsError Settings) := do
  match ← host.readText path with
  | .error e => return .error (.unreadable path e)
  | .ok text =>
    match ofText? text with
    | some settings => return .ok settings
    | none => return .error (.malformed path)

/-- The settings in the first of some files that exists, or the defaults. -/
def loadFirst (host : Host m) : List FilePath → m (Except SettingsError Settings)
  | [] => return .ok default
  | path :: rest => do
    if ← host.isFile path then ofFile host path else loadFirst host rest

/-- The name of a settings file. -/
def fileName : String := "vtrace.toml"

/-- The usual files: in the current directory, and hidden in the home directory. -/
def usualFiles (home : Option FilePath) : List FilePath :=
  FilePath.ofText fileName :: (home.map fun dir => dir.join (.ofText ("." ++ fileName))).toList

/-- The settings in the file that is named explicitly, or else in a usual one. -/
def load (host : Host m) (explicit home : Option FilePath) : m (Except SettingsError Settings) :=
  match explicit with
  | some path => ofFile host path
  | none => loadFirst host (usualFiles home)

end Settings

end ValueTrace
