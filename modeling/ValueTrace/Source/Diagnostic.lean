import ValueTrace.Text.CharClass
import ValueTrace.Text.Word

/-!
# Diagnostics of a parser

A parser that rejects a source says so with a place, such as `(3:14)` or `Line 3`, or with one of a
few phrases.  Case does not matter, and digits and words are those of all scripts.

## Main definitions

* `Diagnostic.isSyntax` : whether a message rejects a source.
-/

namespace ValueTrace.Diagnostic

/-- Whether a character is a lower-case ASCII letter in any case.  Two letters have a third form:
the Kelvin sign and the long s. -/
def sameLetter (letter c : Char) : Bool :=
  c = letter || c.toLower = letter || letter = 'k' && c = '\u212A' || letter = 's' && c = '\u017F'

/-- The rest of a text after a phrase in any case. -/
def dropPhrase : List Char → List Char → Option (List Char)
  | [], text => some text
  | p :: phrase, c :: text => if sameLetter p c then dropPhrase phrase text else none
  | _ :: _, [] => none

/-- The rest of a text after a run of digits, which must not be empty. -/
def dropDigits (text : List Char) : Option (List Char) :=
  match text with
  | c :: rest => if Text.isDigit c then some (rest.dropWhile Text.isDigit) else none
  | [] => none

/-- Whether a text begins with a line and a column in brackets. -/
def beginsPlace (text : List Char) : Bool :=
  match text with
  | '(' :: rest =>
    match dropDigits rest with
    | some (':' :: rest) =>
      match dropDigits rest with
      | some (')' :: _) => true
      | _ => false
    | _ => false
  | _ => false

/-- Whether a text begins with the word for a line and its number, and the number ends there. -/
def beginsLine (text : List Char) : Bool :=
  match (dropPhrase "line ".toList text).bind dropDigits with
  | some (c :: _) => !Text.isWord c
  | some [] => true
  | none => false

/-- Whether a text begins with a phrase. -/
def begins (phrase : String) (text : List Char) : Bool :=
  (dropPhrase phrase.toList text).isSome

/-- The phrases that reject a source. -/
def phrases : List String :=
  ["syntaxerror", "syntax error", "unexpected token", "unexpected character", "unexpected end"]

/-- Whether a text that follows a word character, or not, holds a sign of rejection. -/
def search (afterWord : Bool) : List Char → Bool
  | [] => false
  | c :: rest =>
    beginsPlace (c :: rest) || !afterWord && beginsLine (c :: rest)
      || phrases.any (begins · (c :: rest)) || search (Text.isWord c) rest

/-- Whether a message rejects a source. -/
def isSyntax (message : String) : Bool := search false message.toList

end ValueTrace.Diagnostic
