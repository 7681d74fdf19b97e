import ValueTrace.Host
import ValueTrace.Json.Basic
import ValueTrace.Text.Alphanumeric

/-!
# Environment files

A file `.env` in the current directory, or in one above it, gives values to variables that the
environment does not have.  Values may be quoted, may hold escapes and may refer to other variables.
The first line that is none of this ends the file.

## Main definitions

* `Piece`, `Entry` : a value as it is written, and its variable.
* `splitLines`, `readEntry` : the logical lines of a file, and the entry on a line.
* `find`, `load` : the file, and the values it gives.
-/

namespace ValueTrace.EnvironmentFile

/-- A part of a value: text, or the value of a variable. -/
inductive Piece where
  | text (s : List Char)
  | variable (name : List Char)
deriving DecidableEq, Repr

/-- A variable with its value as it is written. -/
structure Entry where
  name : String
  value : List Piece
deriving DecidableEq, Repr

/-! ### Logical lines -/

/-- Where a line stands with respect to quotes. -/
inductive Quoting where
  | plain
  /-- After a blank, where a comment may begin. -/
  | blank
  | escaped
  | double
  | doubleEscaped
  | single
  | singleEscaped
  | comment
deriving DecidableEq, Repr

/-- What a character changes outside quotes. -/
def Quoting.open (c : Char) : Quoting :=
  match c with
  | '\\' => .escaped
  | '"' => .double
  | '\'' => .single
  | _ => .plain

/-- What a character changes. -/
def Quoting.next (q : Quoting) (c : Char) : Quoting :=
  match q with
  | .plain => if Text.isBlank c && c ≠ '\n' && c ≠ '\r' then .blank else .open c
  | .blank => if c = '#' then .comment else .open c
  | .escaped => .plain
  | .double => if c = '\\' then .doubleEscaped else if c = '"' then .plain else .double
  | .doubleEscaped => .double
  | .single => if c = '\\' then .singleEscaped else if c = '\'' then .plain else .single
  | .singleEscaped => .single
  | .comment => .comment

/-- The physical lines of a text with their ends. -/
def physicalLines : List Char → List (List Char)
  | [] => []
  | c :: rest =>
    if c = '\n' then [c] :: physicalLines rest
    else
      match physicalLines rest with
      | line :: more => (c :: line) :: more
      | [] => [[c]]

/-- A line without its comment, and where it stands at its end. -/
def scanQuoting (q : Quoting) : List Char → List Char × Quoting
  | [] => ([], q)
  | c :: rest =>
    match q.next c with
    | .comment => ([], .comment)
    | next =>
      let (kept, last) := scanQuoting next rest
      (c :: kept, last)

/-- A line without its end. -/
def dropEnd (line : List Char) : List Char :=
  match line.reverse with
  | '\n' :: '\r' :: rest => rest.reverse
  | '\n' :: rest => rest.reverse
  | _ => line

/-- The logical lines of physical ones, of which the first continues what was begun.  An open quote
continues a line; if the text ends within one, there is no such line. -/
def splitLines (begun : List Char) (q : Quoting) : List (List Char) → List (List Char)
  | [] => []
  | line :: rest =>
    let whole := begun ++ line
    if (whole.dropWhile Text.isBlank).head? = some '#' then splitLines [] .plain rest
    else
      match scanQuoting q line with
      | (_, .plain) => dropEnd whole :: splitLines [] .plain rest
      | (kept, .comment) => (begun ++ kept) :: splitLines [] .plain rest
      | (_, q) => splitLines whole q rest

/-! ### Entries -/

/-- How a value goes on. -/
inductive Mode where
  | plain
  | single
  | double
  /-- After the blank that ends an unquoted value. -/
  | ended
  /-- After a backslash, within double quotes or not. -/
  | escaped (quoted : Bool)
  /-- In the name of a variable after a dollar sign. -/
  | name (quoted : Bool) (sofar : List Char)
  /-- In the name of a variable in braces. -/
  | braced (quoted : Bool) (sofar : List Char)
deriving DecidableEq, Repr

/-- The mode within double quotes or not. -/
def Mode.ofQuoted (quoted : Bool) : Mode := if quoted then .double else .plain

/-- A character that an escape stands for. -/
def escape (c : Char) : Option Char :=
  match c with
  | 'n' => some '\n'
  | '\\' => some '\\'
  | '\'' => some '\''
  | '"' => some '"'
  | '$' => some '$'
  | ' ' => some ' '
  | _ => none

/-- The pieces of a value. -/
def readValue : Mode → List Char → Option (List Piece)
  | .plain, [] => some []
  | .ended, [] => some []
  | .escaped false, [] => some []
  | .name false name, [] => some [.variable name]
  | _, [] => none
  | .ended, c :: rest =>
    if c = ' ' ∨ c = '\t' then readValue .ended rest
    else if c = '#' then some []
    else none
  | .escaped quoted, c :: rest => do
    let e ← escape c
    let pieces ← readValue (.ofQuoted quoted) rest
    return .text [e] :: pieces
  | .single, c :: rest =>
    if c = '\'' then readValue .plain rest
    else (readValue .single rest).map (.text [c] :: ·)
  | .name quoted sofar, c :: rest =>
    if Text.isAlphanumeric c then readValue (.name quoted (sofar ++ [c])) rest
    else if c = '\x7b' ∧ sofar.isEmpty then readValue (.braced quoted []) rest
    else if c = '$' then (readValue (.name quoted []) rest).map (.variable sofar :: ·)
    else (readValue (.ofQuoted quoted) rest).map fun pieces =>
      .variable sofar :: .text [c] :: pieces
  | .braced quoted sofar, c :: rest =>
    if c = '\x7d' then (readValue (.ofQuoted quoted) rest).map (.variable sofar :: ·)
    else readValue (.braced quoted (sofar ++ [c])) rest
  | .double, c :: rest =>
    if c = '$' then readValue (.name true []) rest
    else if c = '"' then readValue .plain rest
    else if c = '\\' then readValue (.escaped true) rest
    else (readValue .double rest).map (.text [c] :: ·)
  | .plain, c :: rest =>
    if c = '$' then readValue (.name false []) rest
    else if c = '\'' then readValue .single rest
    else if c = '"' then readValue .double rest
    else if c = '\\' then readValue (.escaped false) rest
    else if c = ' ' ∨ c = '\t' then readValue .ended rest
    else (readValue .plain rest).map (.text [c] :: ·)

/-- A text without the white space at its front. -/
def skipBlank (text : List Char) : List Char := text.dropWhile Text.isBlank

/-- The name of a variable, and the text after it and the white space. -/
def readName (text : List Char) : Option (List Char × List Char) :=
  let isPart (c : Char) : Bool := c.isAlphanum || c = '_' || c = '.'
  match text with
  | c :: _ =>
    if c.isAlpha || c = '_' then
      some (text.takeWhile isPart, skipBlank (text.dropWhile isPart))
    else none
  | [] => none

/-- The text after an equals sign. -/
def dropEquals : List Char → Option (List Char)
  | '=' :: rest => some rest
  | _ => none

/-- The name on a line and the text after its equals sign.  The word `export` may come first, and
is a name itself if an equals sign follows it. -/
def readTarget (text : List Char) : Option (List Char × List Char) := do
  let (name, rest) ← readName text
  if name = "export".toList then
    match dropEquals rest with
    | some rest => return (name, rest)
    | none =>
      let (name, rest) ← readName rest
      return (name, ← dropEquals rest)
  else return (name, ← dropEquals rest)

/-- Whether there is nothing more on a line. -/
def isVoid (text : List Char) : Bool := text.isEmpty || text.head? = some '#'

/-- What is on a line: nothing, or an entry. -/
def readEntry (line : List Char) : Option (Option Entry) :=
  let text := skipBlank (Text.trimRight line)
  if isVoid text then some none
  else do
    let (name, rest) ← readTarget text
    let rest := skipBlank rest
    let value ← if isVoid rest then some [] else readValue .plain rest
    return some ⟨String.ofList name, value⟩

/-- The entries on some lines up to the first line that is faulty. -/
def readEntries : List (List Char) → List Entry
  | [] => []
  | line :: rest =>
    match readEntry line with
    | none => []
    | some none => readEntries rest
    | some (some entry) => entry :: readEntries rest

/-- The bytes without the mark of their order. -/
def dropMark : List UInt8 → List UInt8
  | 0xEF :: 0xBB :: 0xBF :: rest => rest
  | bytes => bytes

/-- The text at the front of some bytes up to the first line that is no text. -/
def soundText (bytes : List UInt8) : List Char :=
  let chars := Text.scanAllUtf8 bytes
  match Text.ofUtf8? bytes with
  | some text => text.toList
  | none =>
    let before := (chars.takeWhile Option.isSome).filterMap id
    (before.reverse.dropWhile (· ≠ '\n')).reverse

/-- The entries of a file. -/
def parse (bytes : List UInt8) : List Entry :=
  readEntries (splitLines [] .plain (physicalLines (soundText (dropMark bytes))))

/-! ### Files -/

variable {m : Type → Type} [Monad m]

/-- The environment file in the first of some directories that has one.  A directory that cannot be
searched ends the search. -/
def find (host : Host m) : List FilePath → m (Option FilePath)
  | [] => return none
  | dir :: rest => do
    let candidate := dir.join (.ofText ".env")
    match ← host.probe candidate with
    | .ok .file => return some candidate
    | .ok .directory => find host rest
    | .error .notFound => find host rest
    | .error _ => return none

/-- Values given to variables so far, the first one given to each counting. -/
abbrev Given := List (String × String)

/-- The value of a variable in the environment, or else the one it was given. -/
def lookup (host : Host m) (given : Given) (name : String) : m (Option String) := do
  match ← host.getVariable name with
  | some value => return some value
  | none => return Json.findMember name given

/-- The text of pieces; a variable without a value is empty. -/
def expand (host : Host m) (given : Given) : List Piece → m String
  | [] => return ""
  | .text s :: rest => return String.ofList s ++ (← expand host given rest)
  | .variable name :: rest => do
    let value ← lookup host given (String.ofList name)
    return value.getD "" ++ (← expand host given rest)

/-- Gives a variable its value, unless it has one. -/
def give (host : Host m) (given : Given) (entry : Entry) : m Given := do
  let value ← expand host given entry.value
  match ← lookup host given entry.name with
  | some _ => return given
  | none => return given ++ [(entry.name, value)]

/-- The values that the environment file gives. -/
def load (host : Host m) : m Given := do
  let dir ← host.currentDirectory
  match ← find host dir.ancestors with
  | none => return []
  | some path =>
    match ← host.readBytes path with
    | .error _ => return []
    | .ok bytes => (parse bytes).foldlM (give host) []

end ValueTrace.EnvironmentFile
