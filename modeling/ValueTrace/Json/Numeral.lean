import ValueTrace.Json.Basic

/-!
# Number literals

The grammar of a JSON number and the value it denotes.  A literal without fraction and exponent
that fits 64 bits is an integer, except `-0`.  Any other literal is a double, computed from the
leading digits that fit 64 bits and a power of ten: the digits are rounded to a double, and the
result is multiplied or divided by the rounded power.  A literal beyond the range of doubles has no
value.

## Main definitions

* `Numeral` : the parts of a literal.
* `Numeral.scan` : the literal at the front of a text, with the rest of the text.
* `Numeral.value?` : the number that a literal denotes.
-/

namespace ValueTrace.Json

/-- The digits of a number literal, without the marks between them. -/
structure Numeral where
  negative : Bool
  whole : List Char
  fraction : List Char
  /-- Whether the exponent is negative, and its digits. -/
  exponent : Option (Bool × List Char)

/-- The digits at the front of a text. -/
def scanDigits (text : List Char) : List Char × List Char :=
  (text.takeWhile Char.isDigit, text.dropWhile Char.isDigit)

/-- The part before the point: a single zero, or digits that begin with another one. -/
def scanWhole : List Char → Option (List Char × List Char)
  | '0' :: rest =>
    match rest with
    | c :: _ => if c.isDigit then none else some (['0'], rest)
    | [] => some (['0'], [])
  | text =>
    match scanDigits text with
    | ([], _) => none
    | (digits, rest) => some (digits, rest)

/-- The digits after the point, of which there must be one. -/
def scanFraction : List Char → Option (List Char × List Char)
  | '.' :: text =>
    match scanDigits text with
    | ([], _) => none
    | (digits, rest) => some (digits, rest)
  | text => some ([], text)

/-- The exponent after its letter: an optional sign and at least one digit. -/
def scanPower (text : List Char) : Option ((Bool × List Char) × List Char) :=
  let (negative, body) := match text with
    | '-' :: rest => (true, rest)
    | '+' :: rest => (false, rest)
    | _ => (false, text)
  match scanDigits body with
  | ([], _) => none
  | (digits, rest) => some ((negative, digits), rest)

/-- The exponent, if the text goes on with one. -/
def scanExponent : List Char → Option (Option (Bool × List Char) × List Char)
  | c :: text =>
    if c = 'e' ∨ c = 'E' then (scanPower text).map fun (power, rest) => (some power, rest)
    else some (none, c :: text)
  | [] => some (none, [])

namespace Numeral

/-- The literal at the front of a text, after its sign. -/
def scanUnsigned (negative : Bool) (text : List Char) : Option (Numeral × List Char) := do
  let (whole, text) ← scanWhole text
  let (fraction, text) ← scanFraction text
  let (exponent, text) ← scanExponent text
  return (⟨negative, whole, fraction, exponent⟩, text)

/-- The literal at the front of a text and the rest of the text, if there is one. -/
def scan : List Char → Option (Numeral × List Char)
  | '-' :: text => scanUnsigned true text
  | text => scanUnsigned false text

/-- The greatest natural number of 64 bits. -/
def maxSignificand : Nat := UInt64.size - 1

/-- Leading digits kept in 64 bits and the power of ten that the value still lacks. -/
structure Scaled where
  significand : Nat
  power : Int

/-- Takes digits while they fit; the ones left over are the second component. -/
def absorb (significand : Nat) : List Char → Nat × List Char
  | [] => (significand, [])
  | c :: rest =>
    let next := significand * 10 + (c.toNat - '0'.toNat)
    if next ≤ maxSignificand then absorb next rest else (significand, c :: rest)

/-- The exponent as a number. -/
def power (n : Numeral) : Int :=
  match n.exponent with
  | none => 0
  | some (true, digits) => -(Nat.ofDigitChars 10 digits 0 : Int)
  | some (false, digits) => Nat.ofDigitChars 10 digits 0

/-- Digits of the whole part that do not fit scale the value up; those of the fraction that fit
scale it down, and the others are dropped. -/
def scaled (n : Numeral) : Scaled :=
  let (head, excess) := absorb 0 n.whole
  let (significand, unused) := absorb head n.fraction
  let taken : Int := (n.fraction.length : Int) - unused.length
  { significand, power := (excess.length : Int) - taken + n.power }

/-- The double nearest to `10 ^ k`. -/
def powerOfTen (k : Nat) : Float := Float.ofScientific 1 false k

/-- Divides by `10 ^ 308` until the missing power is representable, then by what is left. -/
def scaleDown (x : Float) (power : Nat) : Float :=
  if power ≤ 308 then x / powerOfTen power
  else if x.toBits = 0 then x
  else scaleDown (x / powerOfTen 308) (power - 308)
termination_by power

/-- The double that significand and power stand for, unless it is out of range. -/
def Scaled.toFloat? (s : Scaled) : Option Float :=
  let x := Float.ofNat s.significand
  if s.power < 0 then some (scaleDown x s.power.natAbs)
  else if s.significand = 0 then some x
  else if s.power > 308 then none
  else
    let y := x * powerOfTen s.power.toNat
    if y.isInf then none else some y

/-- The number that a literal denotes, unless it is out of range. -/
def value? (n : Numeral) : Option Number :=
  let natural := Nat.ofDigitChars 10 n.whole 0
  if n.fraction.isEmpty && n.exponent.isNone && natural ≤ maxSignificand then
    if !n.negative then some (.integer natural)
    else if 0 < natural ∧ natural ≤ Nat.pow 2 63 then some (.integer (-natural))
    else some (.float (-Float.ofNat natural))
  else
    n.scaled.toFloat?.map fun x => .float (if n.negative then -x else x)

end Numeral

end ValueTrace.Json
