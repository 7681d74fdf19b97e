/-!
# Durations

Spans of time in nanoseconds, their conversion to whole milliseconds of 64 bits, and the short text
that messages show: seconds, milliseconds, microseconds or nanoseconds, whichever is the largest
unit that fits, with as many fraction digits as are needed.

## Main definitions

* `Duration`, `Duration.ofMillis`, `Duration.millis` : durations.
* `Duration.text` : the text of a duration.
-/

namespace ValueTrace

/-- A span of time. -/
structure Duration where
  nanoseconds : Nat
deriving DecidableEq, Repr

namespace Duration

/-- The nanoseconds of a second. -/
def second : Nat := 1000000000

/-- The nanoseconds of a millisecond. -/
def millisecond : Nat := 1000000

/-- The nanoseconds of a microsecond. -/
def microsecond : Nat := 1000

/-- A whole number of milliseconds. -/
def ofMillis (ms : UInt64) : Duration := ⟨ms.toNat * millisecond⟩

/-- The whole milliseconds of a duration, at most the greatest number of 64 bits. -/
def millis (d : Duration) : UInt64 :=
  UInt64.ofNat (min (d.nanoseconds / millisecond) (UInt64.size - 1))

/-- Whether no time passes at all. -/
def isZero (d : Duration) : Bool := d.nanoseconds = 0

/-- The digits of a fraction of a unit of `10 ^ places` nanoseconds, without zeros at the end. -/
def fractionDigits (places : Nat) (rest : Nat) : List Char :=
  let digits := Nat.toDigits 10 rest
  ((List.replicate (places - digits.length) '0' ++ digits).reverse.dropWhile (· = '0')).reverse

/-- An amount in units of `10 ^ places` nanoseconds. -/
def inUnits (places : Nat) (unit : String) (nanoseconds : Nat) : String :=
  let whole := nanoseconds / Nat.pow 10 places
  let rest := nanoseconds % Nat.pow 10 places
  let fraction := if rest = 0 then [] else '.' :: fractionDigits places rest
  String.ofList (Nat.toDigits 10 whole ++ fraction) ++ unit

/-- The text of a duration in its largest fitting unit. -/
def text (d : Duration) : String :=
  let n := d.nanoseconds
  if second ≤ n then inUnits 9 "s" n
  else if millisecond ≤ n then inUnits 6 "ms" n
  else if microsecond ≤ n then inUnits 3 "µs" n
  else inUnits 0 "ns" n

end Duration

end ValueTrace
