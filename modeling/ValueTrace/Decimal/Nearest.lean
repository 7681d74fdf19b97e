/-!
# The double nearest to a decimal

A decimal `n * 10 ^ p` is a ratio of natural numbers.  Its nearest double comes from one rounded
division: the ratio is scaled by the power of two that leaves 53 bits before the point, or fewer if
the result would fall below the least exponent, and rounded to a whole number, a tie to the even
one.  The bits of a positive double grow with the double, so a carry out of the significand needs no
care, and beyond the greatest double the same sum gives infinity.

## Main definitions

* `roundRatio` : a ratio rounded to a whole number.
* `nearestBits` : the bits of the double nearest to a ratio.
* `nearest` : the double nearest to a decimal.
-/

namespace ValueTrace.Decimal

/-- The whole number nearest to `n / d`, a tie giving the even one. -/
def roundRatio (n d : Nat) : Nat :=
  let q := n / d
  let r := n % d
  if 2 * r < d ∨ 2 * r = d ∧ q % 2 = 0 then q else q + 1

/-- The bits of infinity. -/
def infinityBits : Nat := 2047 * Nat.pow 2 52

/-- The greatest `e` with `2 ^ e ≤ n / d`, for a positive ratio. -/
def floorLog2 (n d : Nat) : Int :=
  let e : Int := (Nat.log2 n : Int) - Nat.log2 d
  if d * Nat.pow 2 e.toNat ≤ n * Nat.pow 2 (-e).toNat then e else e - 1

/-- The bits of the double nearest to a positive ratio. -/
def nearestBits (n d : Nat) : Nat :=
  let unit : Int := max (floorLog2 n d - 52) (-1074)
  let significand := roundRatio (n * Nat.pow 2 (-unit).toNat) (d * Nat.pow 2 unit.toNat)
  min ((unit + 1074).toNat * Nat.pow 2 52 + significand) infinityBits

/-- The double nearest to `n * 10 ^ p`, which may be infinite.  A power that decides the result
alone is not computed. -/
def nearest (n : Nat) (p : Int) : Float :=
  let bits :=
    if n = 0 then 0
    else if 309 ≤ p then infinityBits
    else if (Nat.log2 n : Int) + 1 + 3 * p < -1075 then 0
    else nearestBits (n * Nat.pow 10 p.toNat) (Nat.pow 10 (-p).toNat)
  Float.ofBits (UInt64.ofNat bits)

end ValueTrace.Decimal
