import ValueTrace.Text.Utf8

/-!
# File paths

Paths are bytes with slashes between their components.  Repeated slashes and components `.` say
nothing and are left out of the components, except that a relative path may begin with `.`;
components `..` are kept, because what they lead to depends on the file system.

## Main definitions

* `FilePath` : paths.
* `FilePath.components` : the names along a path.
* `FilePath.parent?`, `FilePath.ancestors` : the paths above a path.
* `FilePath.join`, `FilePath.absolute?` : paths made from paths.
-/

namespace ValueTrace

/-- A path of the file system, as its bytes. -/
structure FilePath where
  bytes : List UInt8
deriving DecidableEq, Repr

namespace FilePath

/-- The slash between components. -/
def slash : UInt8 := 0x2F

/-- The component that stays in place. -/
def dot : List UInt8 := [0x2E]

/-- The component that leads to the parent. -/
def dotDot : List UInt8 := [0x2E, 0x2E]

/-- The path written as a text. -/
def ofText (text : String) : FilePath := ⟨Text.utf8Bytes text⟩

/-- The path as it is shown. -/
def text (p : FilePath) : String := Text.ofUtf8Lossy p.bytes

/-- Whether a path begins at the root. -/
def isAbsolute (p : FilePath) : Bool := p.bytes.head? = some slash

/-- The parts between slashes. -/
def splitSlash : List UInt8 → List (List UInt8)
  | [] => [[]]
  | b :: rest =>
    if b = slash then [] :: splitSlash rest
    else
      match splitSlash rest with
      | part :: parts => (b :: part) :: parts
      | [] => [[b]]

/-- Parts with slashes between them. -/
def joinSlash : List (List UInt8) → List UInt8
  | [] => []
  | [part] => part
  | part :: parts => part ++ slash :: joinSlash parts

/-- Whether a part between slashes says nothing. -/
def isSilent (part : List UInt8) : Bool := part = [] || part = dot

/-- The names along a path, without what says nothing. -/
def names (p : FilePath) : List (List UInt8) :=
  (splitSlash p.bytes).filter fun part => !isSilent part

/-- Whether a relative path begins with the component `.`. -/
def beginsHere (p : FilePath) : Bool :=
  (splitSlash p.bytes).head? = some dot

/-- The components of a path after its root. -/
def components (p : FilePath) : List (List UInt8) :=
  if p.beginsHere then dot :: p.names else p.names

/-- Parts without the silent ones at their end. -/
def dropSilent (parts : List (List UInt8)) : List (List UInt8) :=
  (parts.reverse.dropWhile isSilent).reverse

/-- What stands before the parts that can be dropped: the root, a leading `.`, or nothing. -/
def anchor (p : FilePath) : List UInt8 :=
  if p.isAbsolute then [slash] else if p.beginsHere then dot else []

/-- The path without its last component, written as before up to there.  The root, and a path
without components, have no parent. -/
def parent? (p : FilePath) : Option FilePath :=
  let parts := splitSlash p.bytes
  match dropSilent parts with
  | [] => if p.beginsHere then some ⟨[]⟩ else none
  | kept =>
    match dropSilent kept.dropLast with
    | [] => some ⟨p.anchor⟩
    | remaining => some ⟨joinSlash remaining⟩

/-- A path and its parents, innermost first, at most so many of them. -/
def climb : Nat → FilePath → List FilePath
  | 0, p => [p]
  | steps + 1, p =>
    match p.parent? with
    | some parent => p :: climb steps parent
    | none => [p]

/-- A path and all its parents, innermost first, of which there are no more than components. -/
def ancestors (p : FilePath) : List FilePath := climb p.components.length p

/-- A path followed by another one, which replaces it if it is absolute. -/
def join (p q : FilePath) : FilePath :=
  if q.isAbsolute then q
  else if p.bytes.isEmpty || p.bytes.getLast? = some slash then ⟨p.bytes ++ q.bytes⟩
  else ⟨p.bytes ++ slash :: q.bytes⟩

/-- The root that an absolute path is written with: two slashes when it begins with exactly two. -/
def writtenRoot : List UInt8 → List UInt8
  | a :: b :: rest =>
    if a = slash ∧ b = slash ∧ rest.head? ≠ some slash then [slash, slash] else [slash]
  | _ => [slash]

/-- The absolute form of a path, read relative to a directory, without what says nothing.  Two
slashes at the front and a slash at the end are kept; the empty path has no absolute form. -/
def absolute? (p directory : FilePath) : Option FilePath :=
  if p.bytes.isEmpty then none
  else
    let start : FilePath := if p.isAbsolute then ⟨writtenRoot p.bytes⟩ else directory
    let whole := if p.names.isEmpty then start else start.join ⟨joinSlash p.names⟩
    some (if p.bytes.getLast? = some slash then whole.join ⟨[]⟩ else whole)

end FilePath

end ValueTrace
