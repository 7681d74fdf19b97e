import ValueTrace.Json.Numeral

/-!
# Tokens of a JSON text

The marks, words, numbers and strings of a JSON text.  A number beyond the range of doubles and a
string with an unpaired surrogate escape are well-formed tokens without a value: they are errors
only where their value is wanted.

## Main definitions

* `Token` : the tokens.
* `scanString` : the body of a string literal up to its closing quote.
* `Token.scan` : the token that begins with a given character, with the rest of the text.
-/

namespace ValueTrace.Json

/-- A token of a JSON text. -/
inductive Token where
  | openArray
  | closeArray
  | openObject
  | closeObject
  | comma
  | colon
  | null
  | bool (value : Bool)
  | number (value : Option Number)
  | string (value : Option String)

/-- The four characters that may stand between tokens. -/
def isBlank (c : Char) : Bool :=
  c = ' ' || c = '\t' || c = '\n' || c = '\r'

/-- A piece of a string literal: a character, or half of a pair of surrogate escapes. -/
inductive Piece where
  | scalar (c : Char)
  | half (unit : Nat)

/-- The value of a hexadecimal digit in either case. -/
def hexValue (c : Char) : Option Nat :=
  if '0' ≤ c ∧ c ≤ '9' then some (c.toNat - '0'.toNat)
  else if 'a' ≤ c ∧ c ≤ 'f' then some (c.toNat - 'a'.toNat + 10)
  else if 'A' ≤ c ∧ c ≤ 'F' then some (c.toNat - 'A'.toNat + 10)
  else none

/-- The number that hexadecimal digits denote. -/
def hexNumber (digits : List Char) : Option Nat :=
  digits.foldlM (fun n c => (hexValue c).map (n * 16 + ·)) 0

/-- The piece written as an escape with a code unit. -/
def Piece.ofUnit (unit : Nat) : Piece :=
  if 0xD800 ≤ unit ∧ unit < 0xE000 then .half unit else .scalar (Char.ofNat unit)

/-- The character that a one-letter escape stands for. -/
def shortEscape (c : Char) : Option Char :=
  match c with
  | '"' => some '"'
  | '\\' => some '\\'
  | '/' => some '/'
  | 'b' => some '\x08'
  | 'f' => some '\x0c'
  | 'n' => some '\n'
  | 'r' => some '\r'
  | 't' => some '\t'
  | _ => none

/-- The pieces of a string literal up to its closing quote, and the text after it. -/
def scanString : List Char → Option (List Piece × List Char)
  | [] => none
  | '"' :: rest => some ([], rest)
  | '\\' :: 'u' :: a :: b :: c :: d :: rest =>
    match hexNumber [a, b, c, d] with
    | some unit => (scanString rest).map fun (pieces, rest) => (Piece.ofUnit unit :: pieces, rest)
    | none => none
  | '\\' :: c :: rest =>
    match shortEscape c with
    | some e => (scanString rest).map fun (pieces, rest) => (.scalar e :: pieces, rest)
    | none => none
  | c :: rest =>
    if c.toNat < 0x20 then none
    else (scanString rest).map fun (pieces, rest) => (.scalar c :: pieces, rest)

/-- The characters of the pieces, if every half is followed by its partner. -/
def joinHalves : List Piece → Option (List Char)
  | [] => some []
  | .scalar c :: rest => (joinHalves rest).map (c :: ·)
  | .half high :: .half low :: rest =>
    if high < 0xDC00 ∧ 0xDC00 ≤ low then
      (joinHalves rest).map (Char.ofNat (0x10000 + (high - 0xD800) * 0x400 + (low - 0xDC00)) :: ·)
    else none
  | .half _ :: _ => none

/-- The rest of a text after a given word. -/
def dropWord : List Char → List Char → Option (List Char)
  | [], text => some text
  | w :: word, c :: text => if w = c then dropWord word text else none
  | _ :: _, [] => none

/-- The token that begins with the given character, and the text after it. -/
def Token.scan (c : Char) (rest : List Char) : Option (Token × List Char) :=
  match c with
  | '[' => some (.openArray, rest)
  | ']' => some (.closeArray, rest)
  | '{' => some (.openObject, rest)
  | '}' => some (.closeObject, rest)
  | ',' => some (.comma, rest)
  | ':' => some (.colon, rest)
  | '"' => (scanString rest).map fun (pieces, rest) =>
      (.string ((joinHalves pieces).map String.ofList), rest)
  | 'n' => (dropWord ['u', 'l', 'l'] rest).map fun rest => (.null, rest)
  | 't' => (dropWord ['r', 'u', 'e'] rest).map fun rest => (.bool true, rest)
  | 'f' => (dropWord ['a', 'l', 's', 'e'] rest).map fun rest => (.bool false, rest)
  | c => (Numeral.scan (c :: rest)).map fun (n, rest) => (.number n.value?, rest)

end ValueTrace.Json
