/-!
# Shortest decimal digits of a double

A finite double is a dyadic number `mantissa * 2 ^ exponent`.  Every real number nearer to it than
to its neighbours reads back as it, so it may be written with any decimal in that interval.  This
file chooses the decimal with the fewest digits, and among those the nearest one, by exact
arithmetic on natural numbers.  Of two that are equally near, an output format has its choice.

The interval runs from half a unit below the double to half a unit above it, except at a power of
two, where the unit below is half as large.  Its ends belong to it exactly when the mantissa is
even, because ties round to even.

## Main definitions

* `Dyadic`, `dyadic` : the exact value of a finite double.
* `Digits` : decimal digits with the place of the decimal point.
* `Tie` : which of two equally near decimals is chosen.
* `shortest` : the digits chosen for a positive double.
-/

namespace ValueTrace.Decimal

/-- A natural number scaled by a power of two. -/
structure Dyadic where
  mantissa : Nat
  exponent : Int
deriving DecidableEq, Repr

/-- The magnitude of a finite double; the sign bit plays no part. -/
def dyadic (x : Float) : Dyadic :=
  let bits := x.toBits.toNat
  let fraction : Nat := bits % Nat.pow 2 52
  let biased : Nat := bits / Nat.pow 2 52 % Nat.pow 2 11
  if biased = 0 then ⟨fraction, -1074⟩ else ⟨Nat.pow 2 52 + fraction, (biased : Int) - 1075⟩

/-- Whether the sign bit of a double is set, which tells the two zeros apart. -/
def isNegative (x : Float) : Bool :=
  x.toBits.toNat / Nat.pow 2 63 = 1

/-- The natural number `m * 2 ^ e` when the exponent is not negative, and its floor otherwise. -/
def Dyadic.floor (d : Dyadic) : Nat :=
  if d.exponent < 0 then d.mantissa / Nat.pow 2 (-d.exponent).toNat
  else d.mantissa * Nat.pow 2 d.exponent.toNat

/-- Whether the dyadic number is a natural number. -/
def Dyadic.isNatural (d : Dyadic) : Bool :=
  decide (0 ≤ d.exponent) || d.mantissa % Nat.pow 2 (-d.exponent).toNat == 0

/-- The number `0.d₁d₂… * 10 ^ point`, with its digits as characters. -/
structure Digits where
  digits : List Char
  point : Int
deriving DecidableEq, Repr

/-- Which of two equally near decimals is chosen. -/
inductive Tie where
  /-- The one that ends in an even digit. -/
  | even
  /-- The greater one. -/
  | up
deriving DecidableEq, Repr

/-- Whether the lower of two equally near neighbours is chosen. -/
def Tie.keepsLower (t : Tie) (lower : Nat) : Bool :=
  match t with
  | .even => lower % 2 = 0
  | .up => false

/-- Four times the bounds of the interval that reads back as the double, and four times the
double itself, as numerators over one common denominator. -/
structure Neighbourhood where
  lower : Nat
  value : Nat
  upper : Nat
  denominator : Nat
  closed : Bool

/-- The interval of a double, whose lower half is smaller where the spacing changes. -/
def neighbourhood (d : Dyadic) : Neighbourhood :=
  let below := if d.mantissa = Nat.pow 2 52 ∧ d.exponent > -1074 then 1 else 2
  let scale := Nat.pow 2 d.exponent.toNat
  { lower := (4 * d.mantissa - below) * scale
    value := 4 * d.mantissa * scale
    upper := (4 * d.mantissa + 2) * scale
    denominator := 4 * Nat.pow 2 (-d.exponent).toNat
    closed := d.mantissa % 2 = 0 }

/-- Whether the decimal `c * 10 ^ k` lies in the interval. -/
def Neighbourhood.holds (n : Neighbourhood) (c : Nat) (k : Int) : Bool :=
  let grid := c * Nat.pow 10 k.toNat * n.denominator
  let scale := Nat.pow 10 (-k).toNat
  if n.closed then n.lower * scale ≤ grid && grid ≤ n.upper * scale
  else n.lower * scale < grid && grid < n.upper * scale

/-- The point of the grid of multiples of `10 ^ k` that stands for the double, if one does: of the
two neighbours on the grid the nearer one. -/
def Neighbourhood.onGrid (n : Neighbourhood) (tie : Tie) (k : Int) : Option Nat :=
  let unit := Nat.pow 10 k.toNat * n.denominator
  let value := n.value * Nat.pow 10 (-k).toNat
  let low := value / unit
  let twice := 2 * (value % unit)
  let lowIsNearer := twice < unit || twice = unit && tie.keepsLower low
  let nearer := if lowIsNearer then low else low + 1
  let farther := if lowIsNearer then low + 1 else low
  if n.holds nearer k && 0 < nearer then some nearer
  else if n.holds farther k && 0 < farther then some farther
  else none

/-- The coarsest grid, at or below `10 ^ k`, with a point for the double.  Seventeen digits always
suffice, which bounds the search. -/
def Neighbourhood.search (n : Neighbourhood) (tie : Tie) : Nat → Int → Nat × Int
  | 0, k => (n.value / n.denominator, k)
  | steps + 1, k =>
    match n.onGrid tie k with
    | some c => (c, k)
    | none => n.search tie steps (k - 1)

/-- Digits of a natural number without the zeros at their end. -/
def significantDigits (n : Nat) : List Char :=
  ((Nat.toDigits 10 n).reverse.dropWhile (· = '0')).reverse

/-- The number of decimal digits before the point of a positive dyadic number, or minus the number
of zeros after it, found from its binary size. -/
def magnitude (d : Dyadic) : Int :=
  let bits : Int := (Nat.log2 d.mantissa : Int) + d.exponent + 1
  (bits * 30103).fdiv 100000 + 1

/-- The shortest digits that read back as a positive double. -/
def shortest (d : Dyadic) (tie : Tie) : Digits :=
  let (c, k) := (neighbourhood d).search tie 20 (magnitude d + 1)
  { digits := significantDigits c, point := (Nat.toDigits 10 c).length + k }

end ValueTrace.Decimal
