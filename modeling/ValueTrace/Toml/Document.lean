import ValueTrace.Toml.Scalar
import ValueTrace.Toml.Table

/-!
# TOML documents

A document is a sequence of lines: headers that open a table, keys with values, and blank lines.
Arrays and inline tables may go over several lines and end with a comma.

## Main definitions

* `scanKey`, `scanValue` : a dotted key, and a value nested no deeper than a limit.
* `Statement`, `scanStatement` : what stands on a line.
* `read` : the table that a text is.
-/

namespace ValueTrace.Toml

open Json (Document)

/-- A character of a name without quotes. -/
def isBare (c : Char) : Bool := c.isAlphanum || c = '_' || c = '-'

/-- One name of a key. -/
def scanName (text : List Char) : Option (String × List Char) :=
  match text with
  | [] => none
  | c :: rest =>
    if isQuote c then scanSimple c rest
    else
      match text.takeWhile isBare with
      | [] => none
      | name => some (String.ofList name, text.dropWhile isBare)

/-- The names of a key, with points between them, unless there are more than a limit. -/
def scanNames : Nat → List Char → Option (Key × List Char)
  | 0, _ => none
  | limit + 1, text => do
    let (name, text) ← scanName text
    match skipBlank text with
    | '.' :: rest =>
      let (names, rest) ← scanNames limit (skipBlank rest)
      return (name :: names, rest)
    | rest => return ([name], rest)

/-- How deep values may nest, and how many names a key may have. -/
def maxDepth : Nat := 80

/-- A dotted key, and the text after it and its blanks. -/
def scanKey (text : List Char) : Option (Key × List Char) := scanNames maxDepth text

/-- A key and its value.  What may stand on either side of the equals sign is skipped. -/
def scanEntry (skip : List Char → List Char) (value : List Char → Option (Document × List Char))
    (text : List Char) : Option ((Key × Document) × List Char) := do
  let (key, text) ← scanKey text
  let text ← after '=' (skip text)
  let (d, text) ← value (skip text)
  return ((key, d), text)

/-- Parts with commas between them up to a closing mark, after the opening one. -/
def scanParts {α : Type} (part : List Char → Option (α × List Char)) (close : Char) :
    Nat → List Char → Option (List α × List Char)
  | 0, _ => none
  | fuel + 1, text =>
    match skipGap text with
    | [] => none
    | c :: rest =>
      if c = close then some ([], rest)
      else do
        let (a, text) ← part (c :: rest)
        match skipGap text with
        | [] => none
        | d :: rest =>
          if d = close then some ([a], rest)
          else if d = ',' then
            let (more, rest) ← scanParts part close fuel rest
            return (a :: more, rest)
          else none

/-- A value that nests at most so many arrays and inline tables. -/
def scanValue : (depth : Nat) → List Char → Option (Document × List Char)
  | _, [] => none
  | depth, c :: rest =>
    if isQuote c then (scanString c rest).map fun (s, rest) => (.string s, rest)
    else if c = '[' then
      match depth with
      | 0 => none
      | depth + 1 =>
        (scanParts (scanValue depth) ']' (rest.length + 1) rest).map fun (items, rest) =>
          (.array items true, rest)
    else if c = '\x7b' then
      match depth with
      | 0 => none
      | depth + 1 => do
        let (entries, rest) ←
          scanParts (scanEntry skipGap (scanValue depth)) '\x7d' (rest.length + 1) rest
        let members ← assignAll entries []
        return (finish members, rest)
    else scanPlain (c :: rest)

/-- What stands on a line. -/
inductive Statement where
  | blank
  | table (key : Key)
  | arrayTable (key : Key)
  | entry (key : Key) (d : Document)

/-- The statement at the front of a line. -/
def scanStatement (text : List Char) : Option (Statement × List Char) :=
  match skipBlank text with
  | [] => some (.blank, [])
  | '[' :: '[' :: rest => do
    let (key, rest) ← scanKey (skipBlank rest)
    let rest ← after ']' rest
    let rest ← after ']' rest
    return (.arrayTable key, rest)
  | '[' :: rest => do
    let (key, rest) ← scanKey (skipBlank rest)
    let rest ← after ']' rest
    return (.table key, rest)
  | c :: rest =>
    if c = '#' ∨ c = '\n' ∨ c = '\r' then some (.blank, c :: rest)
    else (scanEntry skipBlank (scanValue maxDepth) (c :: rest)).map fun ((key, d), rest) =>
      (.entry key d, rest)

/-- The statements of all lines. -/
def scanStatements : Nat → List Char → Option (List Statement)
  | 0, _ => none
  | fuel + 1, text => do
    let (statement, text) ← scanStatement text
    match skipComment (skipBlank text) with
    | [] => return [statement]
    | text =>
      let text ← dropNewline text
      let more ← scanStatements fuel text
      return statement :: more

/-- A table that is filled by the entries after its header. -/
structure Section where
  /-- How the table becomes part of the document. -/
  place : List (Key × Document) → Members → Option Members
  /-- Its entries, the last one first. -/
  entries : List (Key × Document)

/-- Puts a finished table into the document. -/
def Section.close (s : Section) (root : Members) : Option Members :=
  s.place s.entries.reverse root

/-- Builds the document: entries belong to the last header before them. -/
def build (s : Section) (root : Members) : List Statement → Option Members
  | [] => s.close root
  | .blank :: rest => build s root rest
  | .entry key d :: rest => build { s with entries := (key, d) :: s.entries } root rest
  | .table key :: rest => do build ⟨openTable key, []⟩ (← s.close root) rest
  | .arrayTable key :: rest => do build ⟨openArrayTable key, []⟩ (← s.close root) rest

/-- A text without the mark of its byte order. -/
def dropMark : List Char → List Char
  | '\uFEFF' :: rest => rest
  | text => text

/-- The table that a text is, unless it is no TOML document. -/
def read (text : String) : Option Document := do
  let chars := dropMark text.toList
  let statements ← scanStatements (chars.length + 1) chars
  let members ← build ⟨assignAll, []⟩ [] statements
  return finish members

end ValueTrace.Toml
