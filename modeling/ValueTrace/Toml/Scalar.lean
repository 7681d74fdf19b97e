import ValueTrace.Decimal.Nearest
import ValueTrace.Json.Document
import ValueTrace.Json.Numeral
import ValueTrace.Json.Token

/-!
# TOML scalars

Strings of four kinds, integers of four bases, floating point numbers, truth values and date-times.
Every function takes what it reads from the front of a text and returns the rest.

A date-time is read as a table with one reserved field, which no setting names.

## Main definitions

* `scanString` : a string of any kind.
* `scanPlain` : a value without quotes.
* `scalarOf` : the value that a word is.
-/

namespace ValueTrace.Toml

open Json (Document)

/-- A space or a tab. -/
def isBlank (c : Char) : Bool := c = ' ' || c = '\t'

/-- A text without the blanks at its front. -/
def skipBlank (text : List Char) : List Char := text.dropWhile isBlank

/-- The text after a line end, if there is one. -/
def dropNewline : List Char → Option (List Char)
  | '\n' :: rest => some rest
  | '\r' :: '\n' :: rest => some rest
  | _ => none

/-- A character that may stand in a comment or a string. -/
def isPrinted (c : Char) : Bool := c = '\t' || 0x20 ≤ c.toNat && c.toNat ≠ 0x7F

/-- A text without the comment at its front. -/
def skipComment : List Char → List Char
  | '#' :: rest => rest.dropWhile isPrinted
  | text => text

/-- A text without the blanks, comments and line ends at its front. -/
def skipGaps : Nat → List Char → List Char
  | 0, text => text
  | fuel + 1, text =>
    let rest := skipComment (skipBlank text)
    match dropNewline rest with
    | some rest => skipGaps fuel rest
    | none => rest

/-- A text without the blanks, comments and line ends at its front. -/
def skipGap (text : List Char) : List Char := skipGaps text.length text

/-! ### Strings -/

/-- The character that a one-letter escape stands for. -/
def shortEscape (c : Char) : Option Char :=
  match c with
  | 'b' => some '\x08'
  | 't' => some '\t'
  | 'n' => some '\n'
  | 'f' => some '\x0c'
  | 'r' => some '\r'
  | 'e' => some '\x1b'
  | '"' => some '"'
  | '\\' => some '\\'
  | _ => none

/-- The number of digits of an escape with a code point. -/
def escapeWidth (c : Char) : Option Nat :=
  match c with
  | 'x' => some 2
  | 'u' => some 4
  | 'U' => some 8
  | _ => none

/-- The character with a code point, unless it is half of a pair. -/
def scalarValue (n : Nat) : Option Char :=
  if n < 0xD800 ∨ 0xE000 ≤ n ∧ n < 0x110000 then some (Char.ofNat n) else none

/-- The character that an escape after its backslash stands for. -/
def scanEscape : List Char → Option (Char × List Char)
  | [] => none
  | c :: rest =>
    match shortEscape c, escapeWidth c with
    | some e, _ => some (e, rest)
    | none, some width =>
      if rest.length < width then none
      else do
        let n ← Json.hexNumber (rest.take width)
        let e ← scalarValue n
        return (e, rest.drop width)
    | none, none => none

/-- The body of a string on one line, up to its closing quote. -/
def scanLine (quote : Char) : Nat → List Char → Option (List Char × List Char)
  | 0, _ => none
  | _, [] => none
  | fuel + 1, c :: rest =>
    if c = quote then some ([], rest)
    else if c = '\\' ∧ quote = '"' then do
      let (e, rest) ← scanEscape rest
      let (body, rest) ← scanLine quote fuel rest
      return (e :: body, rest)
    else if isPrinted c then do
      let (body, rest) ← scanLine quote fuel rest
      return (c :: body, rest)
    else none

/-- A text without the blanks and line ends at its front. -/
def skipLines : Nat → List Char → List Char
  | 0, text => text
  | fuel + 1, text =>
    match dropNewline (skipBlank text) with
    | some rest => skipLines fuel rest
    | none => skipBlank text

/-- The text after a backslash that ends a line, without the blanks and line ends that follow. -/
def dropContinuation (text : List Char) : Option (List Char) :=
  (dropNewline (skipBlank text)).map fun rest => skipLines rest.length rest

/-- The body of a string on several lines, up to its three closing quotes.  Up to two more quotes
before them belong to the body. -/
def scanLines (quote : Char) : Nat → List Char → Option (List Char × List Char)
  | 0, _ => none
  | _, [] => none
  | fuel + 1, c :: rest =>
    if c = quote then
      let quotes := (c :: rest).takeWhile (· = quote)
      if 3 ≤ quotes.length then
        let inner := min 2 (quotes.length - 3)
        some (List.replicate inner quote, (c :: rest).drop (inner + 3))
      else do
        let (body, rest) ← scanLines quote fuel rest
        return (c :: body, rest)
    else if c = '\\' ∧ quote = '"' then
      match dropContinuation rest with
      | some rest => scanLines quote fuel rest
      | none => do
        let (e, rest) ← scanEscape rest
        let (body, rest) ← scanLines quote fuel rest
        return (e :: body, rest)
    else
      match dropNewline (c :: rest) with
      | some after => do
        let (body, after) ← scanLines quote fuel after
        return (if c = '\r' then '\r' :: '\n' :: body else '\n' :: body, after)
      | none =>
        if isPrinted c then do
          let (body, rest) ← scanLines quote fuel rest
          return (c :: body, rest)
        else none

/-- Whether a character opens a string. -/
def isQuote (c : Char) : Bool := c = '"' || c = '\''

/-- A string on one line, after its opening quote. -/
def scanSimple (quote : Char) (rest : List Char) : Option (String × List Char) :=
  (scanLine quote (rest.length + 1) rest).map fun (body, rest) => (String.ofList body, rest)

/-- A string of any kind, after its first quote.  A line end right after three quotes does not
belong to the string. -/
def scanString (quote : Char) (rest : List Char) : Option (String × List Char) :=
  match rest with
  | a :: b :: text =>
    if a = quote ∧ b = quote then
      let text := (dropNewline text).getD text
      (scanLines quote (text.length + 1) text).map fun (body, rest) => (String.ofList body, rest)
    else scanSimple quote rest
  | _ => scanSimple quote rest

/-! ### Numbers -/

/-- Digits without the underscores that separate them. -/
def digits (isDigit : Char → Bool) : List Char → Option (List Char)
  | [] => none
  | [c] => if isDigit c then some [c] else none
  | c :: '_' :: rest => if isDigit c then (digits isDigit rest).map (c :: ·) else none
  | c :: rest => if isDigit c then (digits isDigit rest).map (c :: ·) else none

/-- The decimal digits of a whole number, which has no zero at its front. -/
def wholeDigits (text : List Char) : Option (List Char) :=
  match digits Char.isDigit text with
  | some ('0' :: _ :: _) => none
  | found => found

/-- A word without its sign, and whether the sign is negative. -/
def splitSign : List Char → Bool × List Char
  | '-' :: rest => (true, rest)
  | '+' :: rest => (false, rest)
  | text => (false, text)

/-- An integer; one of more than 128 bits has no value. -/
def integer (n : Int) : Document :=
  if -(Nat.pow 2 127 : Int) ≤ n ∧ n < (Nat.pow 2 128 : Int) then .number (.integer n) else .broken

/-- The number that digits of a base denote. -/
def numberIn (base : Nat) (isDigit : Char → Bool) (text : List Char) : Option Document := do
  let ds ← digits isDigit text
  let n ← ds.foldlM (fun n c => (Json.hexValue c).map (n * base + ·)) 0
  return integer n

/-- A whole number in one of the four bases. -/
def integerOf (text : List Char) : Option Document :=
  match text with
  | '0' :: 'x' :: rest => numberIn 16 (fun c => (Json.hexValue c).isSome) rest
  | '0' :: 'o' :: rest => numberIn 8 (fun c => '0' ≤ c && c ≤ '7') rest
  | '0' :: 'b' :: rest => numberIn 2 (fun c => c = '0' || c = '1') rest
  | _ =>
    let (negative, body) := splitSign text
    (wholeDigits body).map fun ds =>
      let n : Int := Nat.ofDigitChars 10 ds 0
      integer (if negative then -n else n)

/-- The exponent of a number: a sign and digits after the letter. -/
def exponentOf (text : List Char) : Option (Option (Bool × List Char)) :=
  match text with
  | [] => some none
  | c :: rest =>
    if c = 'e' ∨ c = 'E' then
      let (negative, body) := splitSign rest
      (digits Char.isDigit body).map fun ds => some (negative, ds)
    else none

/-- A digit or the mark between digits. -/
def isDigitPart (c : Char) : Bool := c.isDigit || c = '_'

/-- A number with a fraction or an exponent; one beyond the doubles has no value. -/
def floatOf (text : List Char) : Option Document :=
  let (negative, body) := splitSign text
  match body with
  | ['i', 'n', 'f'] =>
    some (.number (.float (if negative then -1.0 / 0.0 else 1.0 / 0.0)))
  | ['n', 'a', 'n'] => some (.number (.float (0.0 / 0.0)))
  | _ => do
    let whole ← wholeDigits (body.takeWhile isDigitPart)
    let rest := body.dropWhile isDigitPart
    let (fraction, rest) ← match rest with
      | '.' :: more =>
        (digits Char.isDigit (more.takeWhile isDigitPart)).map fun ds =>
          (ds, more.dropWhile isDigitPart)
      | _ => some ([], rest)
    let exponent ← exponentOf rest
    if fraction.isEmpty && exponent.isNone then none
    else
      let numeral : Json.Numeral := ⟨negative, whole, fraction, exponent⟩
      let x := Decimal.nearest (Nat.ofDigitChars 10 (whole ++ fraction) 0)
        (numeral.power - fraction.length)
      return if x.isInf then .broken else .number (.float (if negative then -x else x))

/-! ### Date-times -/

/-- The number of exactly so many decimal digits at the front of a text. -/
def fixed (width : Nat) (text : List Char) : Option (Nat × List Char) :=
  let ds := text.take width
  if ds.length = width ∧ ds.all Char.isDigit then
    some (Nat.ofDigitChars 10 ds 0, text.drop width)
  else none

/-- The text after a given character. -/
def after (c : Char) : List Char → Option (List Char)
  | d :: rest => if c = d then some rest else none
  | [] => none

/-- The number of days of a month. -/
def daysIn (year month : Nat) : Nat :=
  if month = 2 then
    if year % 4 = 0 ∧ year % 100 ≠ 0 ∨ year % 400 = 0 then 29 else 28
  else if month = 4 ∨ month = 6 ∨ month = 9 ∨ month = 11 then 30
  else 31

/-- The text after a date. -/
def dropDate (text : List Char) : Option (List Char) := do
  let (year, text) ← fixed 4 text
  let text ← after '-' text
  let (month, text) ← fixed 2 text
  let text ← after '-' text
  let (day, text) ← fixed 2 text
  if 1 ≤ month ∧ month ≤ 12 ∧ 1 ≤ day ∧ day ≤ daysIn year month then some text else none

/-- The text after the seconds and their fraction, which may be missing. -/
def dropSeconds (text : List Char) : Option (List Char) :=
  match text with
  | ':' :: rest => do
    let (second, rest) ← fixed 2 rest
    if 60 < second then none
    else
      match rest with
      | '.' :: c :: more => if c.isDigit then some (more.dropWhile Char.isDigit) else none
      | _ => some rest
  | _ => some text

/-- The text after hours and minutes. -/
def dropClock (text : List Char) : Option (List Char) := do
  let (hour, text) ← fixed 2 text
  let text ← after ':' text
  let (minute, text) ← fixed 2 text
  if hour ≤ 23 ∧ minute ≤ 59 then some text else none

/-- The text after a time of day. -/
def dropTime (text : List Char) : Option (List Char) := (dropClock text).bind dropSeconds

/-- The text after an offset from universal time, which may be missing. -/
def dropOffset (text : List Char) : Option (List Char) :=
  match text with
  | 'Z' :: rest => some rest
  | 'z' :: rest => some rest
  | '+' :: rest => dropClock rest
  | '-' :: rest => dropClock rest
  | _ => some text

/-- Whether a word is a date, a time, or both with or without an offset. -/
def isDateTime (text : List Char) : Bool :=
  match dropDate text with
  | some [] => true
  | some (c :: rest) =>
    (c = 'T' || c = 't' || c = ' ') && (dropTime rest).bind dropOffset = some []
  | none => dropTime text = some []

/-- The reserved field that holds a date-time. -/
def dateTimeField : String := "$__toml_private_datetime"

/-! ### Plain values -/

/-- The value that a word is. -/
def scalarOf (text : List Char) : Option Document :=
  if text = ['t', 'r', 'u', 'e'] then some (.bool true)
  else if text = ['f', 'a', 'l', 's', 'e'] then some (.bool false)
  else if isDateTime text then
    some (.object [(some dateTimeField, .string (String.ofList text))] true)
  else
    match integerOf text with
    | some d => some d
    | none => floatOf text

/-- A character of a value without quotes. -/
def isPlain (c : Char) : Bool :=
  c.isAlphanum || c = '_' || c = '-' || c = '+' || c = '.' || c = ':'

/-- The word at the front of a text.  A time may follow its date after one space. -/
def scanWord (text : List Char) : List Char × List Char :=
  let word := text.takeWhile isPlain
  match dropDate word, text.dropWhile isPlain with
  | some [], ' ' :: c :: rest =>
    if c.isDigit then
      (word ++ ' ' :: (c :: rest).takeWhile isPlain, (c :: rest).dropWhile isPlain)
    else (word, ' ' :: c :: rest)
  | _, rest => (word, rest)

/-- A value without quotes. -/
def scanPlain (text : List Char) : Option (Document × List Char) :=
  let (word, rest) := scanWord text
  (scalarOf word).map fun d => (d, rest)

end ValueTrace.Toml
