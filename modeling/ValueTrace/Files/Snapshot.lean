import ValueTrace.Path.Basic

/-!
# Directory trees

A file system as it is at one moment: the contents of files by their absolute names.  Directories
are those on the way to a file and those listed themselves.  A path leads from the root, or from
the current directory, name by name; only a directory has names below it.  What goes wrong is told
in the wording of the operating system.

## Main definitions

* `FileError`, `FileError.message` : why an operation on a file fails.
* `FileKind`, `FileTree` : the tree.
* `FileTree.resolve` : what a path leads to.
* `FileTree.readBytes`, `FileTree.isFile` : reading and testing.
* `FileTree.createDirectories` : a directory made with those on the way to it.
-/

namespace ValueTrace

/-- Why an operation on a file fails. -/
inductive FileError where
  | notFound
  | notDirectory
  | isDirectory
  | permissionDenied
  | alreadyExists
  | nameTooLong
  /-- A path holds a byte that ends names. -/
  | nulInPath
  /-- What a program is started with holds such a byte. -/
  | nulInCall
  /-- The bytes of a file are no text. -/
  | notText
  | other (message : String)
deriving DecidableEq, Repr

/-- The wording of a failure. -/
def FileError.message : FileError → String
  | .notFound => "No such file or directory (os error 2)"
  | .notDirectory => "Not a directory (os error 20)"
  | .isDirectory => "Is a directory (os error 21)"
  | .permissionDenied => "Permission denied (os error 13)"
  | .alreadyExists => "File exists (os error 17)"
  | .nameTooLong => "File name too long (os error 36)"
  | .nulInPath => "file name contained an unexpected NUL byte"
  | .nulInCall => "nul byte found in provided data"
  | .notText => "stream did not contain valid UTF-8"
  | .other message => message

/-- What a path leads to. -/
inductive FileKind where
  | file
  | directory
deriving DecidableEq, Repr

/-- The names from the root to a file or directory. -/
abbrev FileNames := List (List UInt8)

/-- A file system at one moment. -/
structure FileTree where
  /-- Files with their contents. -/
  files : List (FileNames × List UInt8)
  /-- Directories, apart from those on the way to a file. -/
  directories : List FileNames
  /-- Where paths that are not absolute begin. -/
  current : FilePath

namespace FileTree

/-- The contents of the file at some names. -/
def contents? (t : FileTree) (names : FileNames) : Option (List UInt8) :=
  (t.files.find? fun f => f.1 = names).map Prod.snd

/-- Whether there is a directory at some names. -/
def hasDirectory (t : FileTree) (names : FileNames) : Bool :=
  names.isEmpty || t.directories.any (fun d => names.isPrefixOf d)
    || t.files.any fun f => names.isPrefixOf f.1 && names ≠ f.1

/-- What is at some names. -/
def kindAt? (t : FileTree) (names : FileNames) : Option FileKind :=
  if (t.contents? names).isSome then some .file
  else if t.hasDirectory names then some .directory
  else none

/-- Goes from a place along further names. -/
def walk (t : FileTree) (place : FileNames) : FileNames → Except FileError FileNames
  | [] => .ok place
  | name :: rest =>
    match t.kindAt? place with
    | none => .error .notFound
    | some .file => .error .notDirectory
    | some .directory =>
      if name = FilePath.dotDot then t.walk place.dropLast rest
      else if 255 < name.length then .error .nameTooLong
      else t.walk (place ++ [name]) rest

/-- The place that a path leads to, with what is there.  A path that ends in a slash leads to a
directory only. -/
def resolve (t : FileTree) (p : FilePath) : Except FileError (FileNames × FileKind) :=
  if p.bytes.contains 0 then .error .nulInPath
  else if p.bytes.isEmpty then .error .notFound
  else if 4096 ≤ p.bytes.length then .error .nameTooLong
  else
    match t.walk [] (t.current.join p).names with
    | .error e => .error e
    | .ok place =>
      match t.kindAt? place with
      | none => .error .notFound
      | some .directory => .ok (place, .directory)
      | some .file =>
        if (FilePath.splitSlash p.bytes).getLast?.any FilePath.isSilent then .error .notDirectory
        else .ok (place, .file)

/-- What a path leads to. -/
def probe (t : FileTree) (p : FilePath) : Except FileError FileKind :=
  (t.resolve p).map Prod.snd

/-- The bytes of the file at a path. -/
def readBytes (t : FileTree) (p : FilePath) : Except FileError (List UInt8) :=
  match t.resolve p with
  | .error e => .error e
  | .ok (_, .directory) => .error .isDirectory
  | .ok (place, .file) => .ok ((t.contents? place).getD [])

/-- Whether a path leads to a file. -/
def isFile (t : FileTree) (p : FilePath) : Bool := t.probe p matches .ok .file

/-- The absolute path without detours of what a path leads to. -/
def canonical? (t : FileTree) (p : FilePath) : Option FilePath :=
  match t.resolve p with
  | .ok (place, _) => some ⟨FilePath.slash :: FilePath.joinSlash place⟩
  | .error _ => none

/-- Whether a path leads to a directory. -/
def isDirectory (t : FileTree) (p : FilePath) : Bool := t.probe p matches .ok .directory

/-- The tree with a new directory at a path, in a directory that exists. -/
def makeDirectory (t : FileTree) (p : FilePath) : Except FileError FileTree :=
  let names := (t.current.join p).names
  if p.bytes.contains 0 then .error .nulInPath
  else
    match t.walk [] names.dropLast, names.getLast? with
    | .error e, _ => .error e
    | .ok _, none => .error .alreadyExists
    | .ok place, some name =>
      match t.kindAt? place with
      | none => .error .notFound
      | some .file => .error .notDirectory
      | some .directory =>
        if name = FilePath.dotDot || (t.kindAt? (place ++ [name])).isSome then
          .error .alreadyExists
        else if 255 < name.length then .error .nameTooLong
        else .ok { t with directories := t.directories ++ [place ++ [name]] }

/-- The tree with a directory at the first of some paths, each of which leads to the parent of the
one before it.  A missing parent is made first; a directory that exists will do. -/
def createAlong (t : FileTree) : List FilePath → Except FileError FileTree
  | [] => .ok t
  | p :: parents =>
    match t.makeDirectory p with
    | .ok made => .ok made
    | .error .notFound => do
      let t ← t.createAlong parents
      match t.makeDirectory p with
      | .ok made => return made
      | .error e => if t.isDirectory p then return t else .error e
    | .error e => if t.isDirectory p then .ok t else .error e

/-- The tree with a directory at a path and those on the way to it, as far as they are missing.
Names are made one after the other as they are written, so a name may be made only to be left
again. -/
def createDirectories (t : FileTree) (p : FilePath) : Except FileError FileTree :=
  t.createAlong p.ancestors

end FileTree

/-- The text of a file's bytes. -/
def FileError.ofBytes (bytes : List UInt8) : Except FileError String :=
  match Text.ofUtf8? bytes with
  | some text => .ok text
  | none => .error .notText

end ValueTrace
