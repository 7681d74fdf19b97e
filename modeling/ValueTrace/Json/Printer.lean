import ValueTrace.Decimal.Layout
import ValueTrace.Json.Basic

/-!
# Writing JSON

A value is written compactly, without any blank, or indented by two spaces for readers.  Strings
escape only quotes, backslashes and control characters.  A double is written positionally between
`1e-5` and `1e16`, with a fraction digit, and with an exponent elsewhere.

## Main definitions

* `Value.chars`, `Value.compact` : the compact text.
* `Value.indentedChars`, `Value.indented` : the indented text, without a line break at its end.
-/

namespace ValueTrace.Json

/-- Doubles from `1e-5` up to `1e16` are positional and keep a fraction digit; a tie goes to the
even digit. -/
def floatLayout : Decimal.Layout := ⟨some (-5, 16), true, .even⟩

/-- The decimal text of an integer. -/
def integerChars (n : Int) : List Char :=
  if n < 0 then '-' :: Nat.toDigits 10 n.natAbs else Nat.toDigits 10 n.natAbs

/-- The text of a number. -/
def Number.chars : Number → List Char
  | .integer n => integerChars n
  | .float x => floatLayout.chars x

/-- The text of a number as a string. -/
def Number.text (n : Number) : String := String.ofList n.chars

/-- A lower-case hexadecimal digit. -/
def hexDigit (n : Nat) : Char := Nat.digitChar n

/-- A character as it stands in a string literal. -/
def escapeChar (c : Char) : List Char :=
  if c = '"' then ['\\', '"']
  else if c = '\\' then ['\\', '\\']
  else if c = '\x08' then ['\\', 'b']
  else if c = '\x0c' then ['\\', 'f']
  else if c = '\n' then ['\\', 'n']
  else if c = '\r' then ['\\', 'r']
  else if c = '\t' then ['\\', 't']
  else if c.toNat < 0x20 then
    ['\\', 'u', '0', '0', hexDigit (c.toNat / 16), hexDigit (c.toNat % 16)]
  else [c]

/-- A string literal. -/
def stringChars (s : String) : List Char :=
  '"' :: (s.toList.flatMap escapeChar ++ ['"'])

mutual

/-- The compact text of a value. -/
def Value.chars : Value → List Char
  | .null => ['n', 'u', 'l', 'l']
  | .bool true => ['t', 'r', 'u', 'e']
  | .bool false => ['f', 'a', 'l', 's', 'e']
  | .number n => n.chars
  | .string s => stringChars s
  | .array items => '[' :: itemChars items
  | .object members => '\x7b' :: memberChars members

/-- The items of an array and its closing bracket. -/
def itemChars : List Value → List Char
  | [] => [']']
  | v :: rest => v.chars ++ moreItemChars rest

/-- Items after the first one and the closing bracket. -/
def moreItemChars : List Value → List Char
  | [] => [']']
  | v :: rest => ',' :: (v.chars ++ moreItemChars rest)

/-- The members of an object and its closing brace. -/
def memberChars : List (String × Value) → List Char
  | [] => ['\x7d']
  | (name, v) :: rest => stringChars name ++ ':' :: (v.chars ++ moreMemberChars rest)

/-- Members after the first one and the closing brace. -/
def moreMemberChars : List (String × Value) → List Char
  | [] => ['\x7d']
  | (name, v) :: rest =>
    ',' :: (stringChars name ++ ':' :: (v.chars ++ moreMemberChars rest))

end

/-- The compact text of a value. -/
def Value.compact (v : Value) : String := String.ofList v.chars

/-- A line break and the indentation of a nesting depth. -/
def newline (depth : Nat) : List Char := '\n' :: List.replicate (2 * depth) ' '

mutual

/-- The indented text of a value at a nesting depth; empty containers stay on one line. -/
def Value.indentedChars (depth : Nat) : Value → List Char
  | .array [] => ['[', ']']
  | .array (v :: rest) =>
    '[' :: (newline (depth + 1) ++ v.indentedChars (depth + 1) ++ indentedItems depth rest)
  | .object [] => ['\x7b', '\x7d']
  | .object ((name, v) :: rest) =>
    '\x7b' :: (newline (depth + 1) ++ stringChars name ++ ':' :: ' '
      :: (v.indentedChars (depth + 1) ++ indentedMembers depth rest))
  | .null => ['n', 'u', 'l', 'l']
  | .bool true => ['t', 'r', 'u', 'e']
  | .bool false => ['f', 'a', 'l', 's', 'e']
  | .number n => n.chars
  | .string s => stringChars s

/-- Items after the first one and the closing bracket on a line of its own. -/
def indentedItems (depth : Nat) : List Value → List Char
  | [] => newline depth ++ [']']
  | v :: rest =>
    ',' :: (newline (depth + 1) ++ v.indentedChars (depth + 1) ++ indentedItems depth rest)

/-- Members after the first one and the closing brace on a line of its own. -/
def indentedMembers (depth : Nat) : List (String × Value) → List Char
  | [] => newline depth ++ ['\x7d']
  | (name, v) :: rest =>
    ',' :: (newline (depth + 1) ++ stringChars name ++ ':' :: ' '
      :: (v.indentedChars (depth + 1) ++ indentedMembers depth rest))

end

/-- The indented text of a value. -/
def Value.indented (v : Value) : String := String.ofList (v.indentedChars 0)

end ValueTrace.Json
