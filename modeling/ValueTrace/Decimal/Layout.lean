import ValueTrace.Decimal.Shortest

/-!
# Writing a double

The shortest digits of a double are laid out either positionally or with an exponent.  A `Layout`
says which magnitudes are written positionally, whether a whole number keeps a fraction digit, and
which of two equally near decimals is written.

## Main definitions

* `Layout` : the choices of one output format.
* `Layout.chars` : the text of a finite double in that format.
* `Layout.plain` : always positional, whole numbers without a point.
-/

namespace ValueTrace.Decimal

/-- How an output format writes doubles. -/
structure Layout where
  /-- Decimal exponents of the leading digit that are written positionally; all if absent. -/
  positional : Option (Int × Int)
  /-- Whether a whole number written positionally ends in `.0`. -/
  wholeFraction : Bool
  /-- Which of two equally near decimals is written. -/
  tie : Tie

/-- Digits with the point among them, padded with zeros on the side that needs them. -/
def Digits.positional (d : Digits) (wholeFraction : Bool) : List Char :=
  let length : Int := d.digits.length
  if d.point ≤ 0 then
    '0' :: '.' :: (List.replicate (-d.point).toNat '0' ++ d.digits)
  else if length ≤ d.point then
    d.digits ++ List.replicate (d.point - length).toNat '0'
      ++ (if wholeFraction then ['.', '0'] else [])
  else
    d.digits.take d.point.toNat ++ '.' :: d.digits.drop d.point.toNat

/-- One digit before the point and the power of ten after the letter `e`, always signed. -/
def Digits.scientific (d : Digits) : List Char :=
  let power := d.point - 1
  let sign := if power < 0 then '-' else '+'
  let fraction := match d.digits.drop 1 with
    | [] => []
    | rest => '.' :: rest
  d.digits.take 1 ++ fraction ++ 'e' :: sign :: Nat.toDigits 10 power.natAbs

/-- The text of a positive double from its digits. -/
def Layout.place (l : Layout) (d : Digits) : List Char :=
  match l.positional with
  | none => d.positional l.wholeFraction
  | some (least, bound) =>
    if least ≤ d.point - 1 ∧ d.point - 1 < bound then d.positional l.wholeFraction
    else d.scientific

/-- The text of a finite double.  Both zeros are written positionally, with their sign. -/
def Layout.chars (l : Layout) (x : Float) : List Char :=
  let sign := if isNegative x then ['-'] else []
  let magnitude := dyadic x
  if magnitude.mantissa = 0 then
    sign ++ '0' :: (if l.wholeFraction then ['.', '0'] else [])
  else
    sign ++ l.place (shortest magnitude l.tie)

/-- Never an exponent, no point in a whole number, and the greater of two equally near decimals. -/
def Layout.plain : Layout := ⟨none, false, .up⟩

end ValueTrace.Decimal
