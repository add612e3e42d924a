/-! Binary fractions of double precision, as exact numbers: how a decimal is rounded to one, at once
or in several roundings, and the fewest decimal digits that read back as one. All arithmetic is on
whole numbers.
-/

namespace ValueHistory

/-- A finite double: a sign and `significand * 2 ^ exponent`. The significand has 53 bits, or
fewer where the exponent is the least one.
-/
structure Double where
  negative : Bool
  significand : Nat
  exponent : Int
deriving DecidableEq, Repr

namespace Double

-----------------------------------------------------------------------------------------
-- The double nearest to a decimal
-----------------------------------------------------------------------------------------

/-- The least binary exponent. -/
def minExponent : Int := -1074

/-- The greatest binary exponent of a finite double. -/
def maxExponent : Int := 971

/-- The least significand of full length, two to the power of 52. -/
def fullLength : Nat := 4503599627370496

/-- The quotient rounded to the nearest whole number, halves to the even neighbour. -/
def roundQuotient (numerator denominator : Nat) : Nat :=
  let quotient := numerator / denominator
  let twice := 2 * (numerator % denominator)
  if twice < denominator then quotient
  else if denominator < twice then quotient + 1
  else quotient + quotient % 2

/-- The number `numerator / denominator / 2 ^ exponent` rounded to a whole number. -/
def scaledQuotient (numerator denominator : Nat) (exponent : Int) : Nat :=
  if exponent < 0 then roundQuotient (numerator * Nat.pow 2 exponent.natAbs) denominator
  else roundQuotient numerator (denominator * Nat.pow 2 exponent.natAbs)

/-- The double nearest to a positive quotient, if it is finite. The exponent is the one that
leaves 53 bits before the point; its estimate from the bit lengths is one too great at most.
-/
def ofQuotient? (negative : Bool) (numerator denominator : Nat) : Option Double :=
  let estimate : Int := (numerator.log2 : Int) - denominator.log2 - 52
  let below := max minExponent (estimate - 1)
  let exponent :=
    if scaledQuotient numerator denominator below < 2 * fullLength then below else below + 1
  let significand := scaledQuotient numerator denominator exponent
  let carried := significand = 2 * fullLength
  let significand := if carried then fullLength else significand
  let exponent := if carried then exponent + 1 else exponent
  if exponent ≤ maxExponent then some ⟨negative, significand, exponent⟩ else none

/-- The double nearest to `significand * 10 ^ exponent`, if it is finite. Decimals far outside
the range are settled by their magnitude alone.
-/
def ofDecimal? (negative : Bool) (significand : Nat) (exponent : Int) : Option Double :=
  let magnitude := ((Nat.toDigits 10 significand).length : Int) + exponent
  if significand = 0 || magnitude < -400 then some ⟨negative, 0, minExponent⟩
  else if 400 < magnitude then none
  else if exponent < 0 then ofQuotient? negative significand (Nat.pow 10 exponent.natAbs)
  else ofQuotient? negative (significand * Nat.pow 10 exponent.natAbs) 1

-----------------------------------------------------------------------------------------
-- Decimals rounded in several steps
-----------------------------------------------------------------------------------------

/-- Zero with a sign. -/
def zero (negative : Bool) : Double :=
  ⟨negative, 0, minExponent⟩

/-- The double nearest to `numerator / denominator * 2 ^ exponent`, if it is finite. -/
def ofScaled? (negative : Bool) (numerator denominator : Nat) (exponent : Int) : Option Double :=
  if numerator = 0 then some (zero negative)
  else if exponent < 0 then
    ofQuotient? negative numerator (denominator * Nat.pow 2 exponent.natAbs)
  else ofQuotient? negative (numerator * Nat.pow 2 exponent.natAbs) denominator

/-- The double nearest to a product, with the sign of the first factor. -/
def times? (value factor : Double) : Option Double :=
  ofScaled? value.negative (value.significand * factor.significand) 1
    (value.exponent + factor.exponent)

/-- The double nearest to a quotient, with the sign of the dividend. -/
def over? (value divisor : Double) : Option Double :=
  ofScaled? value.negative value.significand divisor.significand
    (value.exponent - divisor.exponent)

/-- The greatest decimal exponent of a power of ten that is a finite double. -/
def maxPower : Nat := 308

/-- The double nearest to a power of ten. -/
def ofPower? (exponent : Nat) : Option Double :=
  ofDecimal? false 1 exponent

/-- Divides by the greatest power of ten for a number of times, or until nothing is left. -/
def lower? : Nat → Double → Option Double
  | 0, value => some value
  | count + 1, value =>
    if value.significand = 0 then some value
    else do lower? count (← value.over? (← ofPower? maxPower))

/-- The double that comes of `significand * 10 ^ exponent` if the significand is rounded first, and
then its product with the power of ten, or its quotients by powers of ten. It is not always the
nearest one, and there may be none for a decimal close to the greatest double.
-/
def ofParts? (negative : Bool) (significand : Nat) (exponent : Int) : Option Double := do
  let value ← ofScaled? negative significand 1 0
  let power := exponent.natAbs
  if value.significand = 0 then some value
  else if 0 ≤ exponent then
    if maxPower < power then none else value.times? (← ofPower? power)
  else
    let count := (power - 1) / maxPower
    (← lower? count value).over? (← ofPower? (power - count * maxPower))

-----------------------------------------------------------------------------------------
-- The fewest digits that read back
-----------------------------------------------------------------------------------------

/-- Four times the significand in the scale where the ends of the rounding interval are whole:
the lower end, the double itself and the upper end. Below a power of two the doubles lie twice as
close.
-/
def interval (double : Double) : Nat × Nat × Nat :=
  let middle := 4 * double.significand
  let lower :=
    if double.significand = fullLength && minExponent < double.exponent then middle - 1
    else middle - 2
  (lower, middle, middle + 2)

/-- Searches the grids of decimals `digits * 10 ^ exponent` from coarse to fine for one that
meets the rounding interval and returns its point nearest to the middle. The interval is given
by three numerators over one denominator; its ends belong to it where `closed` holds.
-/
def searchGrids (lower middle upper denominator : Nat) (closed : Bool)
    : Nat → Int → Nat × Int
  | 0, exponent => (0, exponent)
  | fuel + 1, exponent =>
    let up := if exponent < 0 then Nat.pow 10 exponent.natAbs else 1
    let down := if exponent < 0 then 1 else Nat.pow 10 exponent.natAbs
    let unit := denominator * down
    let inside (point : Nat) : Bool :=
      if closed then lower * up ≤ point * unit && point * unit ≤ upper * up
      else lower * up < point * unit && point * unit < upper * up
    let below := middle * up / unit
    let distance := middle * up - below * unit
    let nearer :=
      2 * distance < unit || (2 * distance = unit && below % 2 = 0)
    match inside below, inside (below + 1) with
    | true, true => (if nearer then below else below + 1, exponent)
    | true, false => (below, exponent)
    | false, true => (below + 1, exponent)
    | false, false => searchGrids lower middle upper denominator closed fuel (exponent - 1)

/-- The fewest decimal digits that read back as the double, and their exponent. Of several
decimals with that number of digits it is the one nearest to the double.
-/
def shortest (double : Double) : Nat × Int :=
  let (lower, middle, upper) := double.interval
  let scale := double.exponent - 2
  let factor := if scale < 0 then 1 else Nat.pow 2 scale.natAbs
  let denominator := if scale < 0 then Nat.pow 2 scale.natAbs else 1
  let start : Int :=
    ((Nat.toDigits 10 (middle * factor)).length : Int) - (Nat.toDigits 10 denominator).length + 1
  if double.significand = 0 then (0, 0)
  else
    searchGrids (lower * factor) (middle * factor) (upper * factor) denominator
      (double.significand % 2 = 0) 20 start

end Double

end ValueHistory
