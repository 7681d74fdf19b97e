import ValueTrace.Text.CharClass
import ValueTrace.Text.Utf8

/-!
# Inspector endpoints

The debuggee names its inspector on its diagnostic output: the address is the longest run of
characters without white space that begins with `ws://` and goes on after it, at its first place on
the first line that has one.

## Main definitions

* `Endpoint.find` : the address on a line.
* `Endpoint.lines` : the lines of some output.
* `Endpoint.scan` : the first address in the diagnostic output, or why there is none.
-/

namespace ValueTrace.Endpoint

/-- How an address begins. -/
def scheme : List Char := ['w', 's', ':', '/', '/']

/-- The address on a line, if there is one. -/
def find : List Char → Option (List Char)
  | [] => none
  | c :: rest =>
    let run := (c :: rest).takeWhile fun c => !Text.isBlank c
    if scheme.isPrefixOf run ∧ scheme.length < run.length then some run else find rest

/-- Line feed. -/
def lineFeed : UInt8 := 0x0A

/-- A line without the carriage return at its end. -/
def dropReturn (line : List UInt8) : List UInt8 :=
  if line.getLast? = some 0x0D then line.dropLast else line

/-- The complete lines of some output without their ends, and what follows the last one. -/
def lines : List UInt8 → List (List UInt8) × List UInt8
  | [] => ([], [])
  | b :: rest =>
    let (complete, tail) := lines rest
    if b = lineFeed then ([] :: complete, tail)
    else
      match complete with
      | line :: more => ((b :: line) :: more, tail)
      | [] => ([], b :: tail)

/-- The lines that a reader gets.  What follows the last line end is a line of its own once the
output has ended. -/
def readable (output : List UInt8) (ended : Bool) : List (List UInt8) :=
  let (complete, tail) := lines output
  complete.map dropReturn ++ if ended && !tail.isEmpty then [tail] else []

/-- What a reader of the diagnostic output finds. -/
inductive Scan where
  | found (endpoint : String)
  /-- There is no address, and none can follow. -/
  | absent
  /-- The output has not ended. -/
  | waiting
deriving DecidableEq, Repr

/-- The first address on some lines.  Bytes that are no text end the search. -/
def scanLines (ended : Bool) : List (List UInt8) → Scan
  | [] => if ended then .absent else .waiting
  | line :: rest =>
    match Text.ofUtf8? line with
    | none => .absent
    | some text =>
      match find text.toList with
      | some endpoint => .found (String.ofList endpoint)
      | none => scanLines ended rest

/-- The first address in diagnostic output that has ended or not. -/
def scan (output : List UInt8) (ended : Bool) : Scan := scanLines ended (readable output ended)

end ValueTrace.Endpoint
