import WorkloadPolicy.Decimal.Layout

/-!
# The fewest digits that read back

Every decimal number in a certain interval around a floating-point number
reads back as that number.  This module finds the decimal number in the
interval with the fewest significant digits; of two such numbers it takes the
one nearer to the exact value, and of two equally near the larger one.  All
arithmetic is on natural numbers, with the value given as a fraction.
-/

namespace WorkloadPolicy
namespace Decimal

/-- The number `coefficient * 10 ^ exponent`. -/
structure Scaled where
  coefficient : Nat
  exponent : Int
  deriving DecidableEq, Repr

/-- The count of decimal digits of a natural number. -/
def digitCount (number : Nat) : Nat :=
  (Nat.toDigits 10 number).length

/-- The positive fractions that read back as the same floating-point number.
All four numbers share `denominator`. -/
structure Neighbourhood where
  low : Nat
  value : Nat
  high : Nat
  denominator : Nat
  /-- Whether the two ends read back too. -/
  closed : Bool
  deriving DecidableEq, Repr

namespace Neighbourhood

/-- The neighbourhood of `significand * 2 ^ exponent`.  The gap below a power
of two is half the gap above it, unless the exponent is already the least. -/
def around
    (layout : Layout)
    (significand : Nat)
    (exponent : Int) : Neighbourhood :=
  let narrow :=
    significand == (1 <<< layout.fractionBits) && exponent != layout.leastExponent
  let up := 1 <<< (exponent - 2).toNat
  { low := (4 * significand - if narrow then 1 else 2) * up
    value := 4 * significand * up
    high := (4 * significand + 2) * up
    denominator := 1 <<< (2 - exponent).toNat
    closed := significand % 2 == 0 }

/-- Whether `coefficient * 10 ^ exponent` lies in the neighbourhood. -/
def contains (range : Neighbourhood) (candidate : Scaled) : Bool :=
  let number := candidate.coefficient * Nat.pow 10 candidate.exponent.toNat * range.denominator
  let scale := Nat.pow 10 (-candidate.exponent).toNat
  if range.closed then
    range.low * scale ≤ number && number ≤ range.high * scale
  else
    range.low * scale < number && number < range.high * scale

/-- The exponent of the leading decimal digit of the value. -/
def leadingExponent (range : Neighbourhood) : Int :=
  let guess : Int := (digitCount range.value : Int) - (digitCount range.denominator : Int)
  if range.denominator * Nat.pow 10 guess.toNat ≤ range.value * Nat.pow 10 (-guess).toNat then
    guess
  else
    guess - 1

/-- The point of the grid of multiples of `10 ^ exponent` that reads back and
is nearest to the value, if one reads back. -/
def onGrid? (range : Neighbourhood) (exponent : Int) : Option Scaled :=
  let numerator := range.value * Nat.pow 10 (-exponent).toNat
  let denominator := range.denominator * Nat.pow 10 exponent.toNat
  let below : Scaled := ⟨numerator / denominator, exponent⟩
  let above : Scaled := ⟨numerator / denominator + 1, exponent⟩
  let remainder := numerator % denominator
  match range.contains below, range.contains above with
  | true, true => some (if 2 * remainder < denominator then below else above)
  | true, false => some below
  | false, true => some above
  | false, false => none

/-- Try the grids with `digits`, `digits + 1`, … significant digits. -/
def shortestFrom (range : Neighbourhood) (digits : Nat) : Nat → Scaled
  | 0 => ⟨range.value / range.denominator, 0⟩
  | attempts + 1 =>
      match range.onGrid? (range.leadingExponent - (digits : Int) + 1) with
      | some found => found
      | none => shortestFrom range (digits + 1) attempts

end Neighbourhood

/-- The shortest decimal number that reads back as
`significand * 2 ^ exponent`.  Seventeen digits suffice in every layout used
here. -/
def shortest
    (layout : Layout)
    (significand : Nat)
    (exponent : Int) : Scaled :=
  (Neighbourhood.around layout significand exponent).shortestFrom 1 17

end Decimal
end WorkloadPolicy
