import ValueTrace.Path.Basic

/-!
# File URLs

The debuggee names its scripts by file URLs: one segment for each name along an absolute path, in
which every byte that has a meaning of its own in a URL is written as a percent sign and two
hexadecimal digits.

A path that is not absolute, such as one with a drive letter, is read as absolute with its
backslashes as slashes.

## Main definitions

* `Url.isPlain` : the bytes that stand for themselves in a segment.
* `Url.encode` : a name as a segment.
* `FilePath.url?`, `FilePath.url` : the URL of an absolute path, and of any path.
-/

namespace ValueTrace

namespace Url

/-- The printable ASCII characters that are escaped in a segment. -/
def reserved : List Char :=
  [' ', '"', '#', '%', '/', '<', '>', '?', '\\', '`', '\x7b', '\x7d']

/-- Whether a byte stands for itself in a segment. -/
def isPlain (b : UInt8) : Bool :=
  0x20 ≤ b && b < 0x7F && !(reserved.any fun c => c.toNat = b.toNat)

/-- An upper-case hexadecimal digit. -/
def upperHex (n : Nat) : Char := (Nat.digitChar n).toUpper

/-- A byte as it stands in a segment. -/
def encodeByte (b : UInt8) : List Char :=
  if isPlain b then [Char.ofNat b.toNat]
  else ['%', upperHex (b.toNat / 16), upperHex (b.toNat % 16)]

/-- A name as a segment. -/
def encode (name : List UInt8) : List Char := name.flatMap encodeByte

/-- Segments with a slash before each; without any, a single slash. -/
def segments : List (List UInt8) → List Char
  | [] => ['/']
  | names => names.flatMap fun name => '/' :: encode name

/-- The URL of the names along an absolute path. -/
def ofNames (names : List (List UInt8)) : String :=
  "file://" ++ String.ofList (segments names)

end Url

namespace FilePath

/-- The URL of an absolute path.  No other path has one. -/
def url? (p : FilePath) : Option String :=
  if p.isAbsolute then some (Url.ofNames p.names) else none

/-- The text of a path with its backslashes as slashes and with a slash in front. -/
def rootedText (text : String) : String :=
  let slashed := text.toList.map fun c => if c = '\\' then '/' else c
  String.ofList (if slashed.head? = some '/' then slashed else '/' :: slashed)

/-- The URL by which the debuggee names the script at a path.  A path without a URL is read as its
rooted text, which is taken as it is if it has none either. -/
def url (p : FilePath) : String :=
  match p.url? with
  | some url => url
  | none => (ofText (rootedText p.text)).url?.getD ("file://" ++ rootedText p.text)

end FilePath

end ValueTrace
