import WorkloadPolicy.Decimal.Shortest

/-!
# Writing numbers

Two ways to write a floating-point number.  The plain text has the fewest
digits that read back and never an exponent: `0.1`, `7`, `-0`,
`1000000000000000000000`.  The rounded text has a given count of places; it is
rounded from the exact binary value, and a tie goes to the even neighbour.
Infinities read `inf` and `-inf`, and a number that is none reads `NaN`.
-/

namespace WorkloadPolicy
namespace Decimal

/-- Remove trailing zeros of the coefficient; `steps` bounds their count. -/
def Scaled.withoutTrailingZeros (number : Scaled) : Nat → Scaled
  | 0 => number
  | steps + 1 =>
      if number.coefficient % 10 = 0 then
        Scaled.withoutTrailingZeros ⟨number.coefficient / 10, number.exponent + 1⟩ steps
      else
        number

/-- Digits with a point before the last `places` of them.  Zeros in front
supply a missing leading digit. -/
def pointed (coefficient places : Nat) : List Char :=
  let digits := Nat.toDigits 10 coefficient
  let padded := List.replicate (places + 1 - digits.length) '0' ++ digits
  if places = 0 then
    padded
  else
    padded.take (padded.length - places) ++ '.' :: padded.drop (padded.length - places)

/-- The positional text of a scaled number. -/
def Scaled.positional (number : Scaled) : List Char :=
  let reduced := number.withoutTrailingZeros (digitCount number.coefficient)
  pointed (reduced.coefficient * Nat.pow 10 reduced.exponent.toNat) (-reduced.exponent).toNat

/-- A minus sign in front of the text of a negative number. -/
def signed (negative : Bool) (text : List Char) : String :=
  String.ofList (if negative then '-' :: text else text)

/-- The plain text of what a word in `layout` stands for. -/
def plainReading (layout : Layout) : Reading → String
  | .notANumber => "NaN"
  | .infinite negative => signed negative ['i', 'n', 'f']
  | .finite negative significand exponent =>
      signed negative <|
        if significand = 0 then ['0'] else (shortest layout significand exponent).positional

/-- The plain text of a `Float`. -/
def plain (number : Float) : String :=
  plainReading .binary64 (readFloat number)

/-- The plain text of a `Float32`. -/
def plain32 (number : Float32) : String :=
  plainReading .binary32 (readFloat32 number)

/-- Divide and round to the nearest integer; a tie goes to the even one. -/
def roundedQuotient (numerator denominator : Nat) : Nat :=
  let quotient := numerator / denominator
  let remainder := numerator % denominator
  if 2 * remainder < denominator then quotient
  else if 2 * remainder = denominator then quotient + quotient % 2
  else quotient + 1

/-- The text of a `Float` with the given count of places. -/
def rounded (places : Nat) (number : Float) : String :=
  match readFloat number with
  | .notANumber => "NaN"
  | .infinite negative => signed negative ['i', 'n', 'f']
  | .finite negative significand exponent =>
      signed negative <|
        pointed
          (roundedQuotient (significand * (1 <<< exponent.toNat) * Nat.pow 10 places)
            (1 <<< (-exponent).toNat))
          places

theorem roundedQuotient_tie
    {numerator denominator : Nat}
    (tie : 2 * (numerator % denominator) = denominator) :
    roundedQuotient numerator denominator % 2 = 0 := by
  simp only [roundedQuotient, tie, Nat.lt_irrefl, ↓reduceIte]
  omega

end Decimal
end WorkloadPolicy
