import WorkloadPolicy.Json.Basic

/-!
# JSON numerals

A numeral without point and exponent that fits 64 bits is an integer, except
for `-0`.  Any other numeral is a real number.  Its digits are gathered into a
significand of at most 64 bits; the significand is turned into the nearest
`Float` and then multiplied or divided once by the nearest power of ten.  A
numeral beyond the range of `Float` is refused.
-/

namespace WorkloadPolicy
namespace Json
namespace Numeral

/-- The greatest significand. -/
def greatestSignificand : Nat := (1 <<< 64) - 1

/-- Append digits to a significand while it fits; the digits left over come
back with it. -/
def gather (significand : Nat) : List Char → Nat × List Char
  | [] => (significand, [])
  | digit :: rest =>
      let grown := 10 * significand + (digit.toNat - 48)
      if grown ≤ greatestSignificand then gather grown rest else (significand, digit :: rest)

/-- The power of ten nearest to `10 ^ exponent`. -/
def power (exponent : Nat) : Float :=
  Float.ofScientific 1 false exponent

/-- Scale by a power of ten.  Large negative exponents take several divisions,
whose count `steps` bounds. -/
def scale (number : Float) (exponent : Int) : Nat → Option Float
  | 0 => some number
  | steps + 1 =>
      if exponent.natAbs ≤ 308 then
        if 0 ≤ exponent then
          let scaled := number * power exponent.natAbs
          if scaled.isInf then none else some scaled
        else
          some (number / power exponent.natAbs)
      else if number == 0.0 then
        some number
      else if 0 ≤ exponent then
        none
      else
        scale (number / power 308) (exponent + 308) steps

/-- A real numeral from its parts. -/
def real? (negative : Bool) (significand : Nat) (exponent : Int) : Option Json :=
  (scale (Float.ofNat significand) exponent 8).map fun number =>
    .real (if negative then -number else number)

/-- An integer numeral. -/
def integer (negative : Bool) (significand : Nat) : Json :=
  if negative then
    if significand = 0 ∨ 1 <<< 63 < significand then
      .real (-(Float.ofNat significand))
    else
      .integer (-(significand : Int))
  else
    .integer significand

/-- The exponent part of a numeral. -/
def exponentPart? (characters : List Char) : Option (Int × List Char) :=
  let (negative, rest) : Bool × List Char :=
    match characters with
    | '-' :: rest => (true, rest)
    | '+' :: rest => (false, rest)
    | rest => (false, rest)
  let digits := rest.takeWhile Char.isDigit
  if digits.isEmpty then
    none
  else
    let size : Int := digits.foldl (fun value digit => 10 * value + ((digit.toNat - 48 : Nat) : Int)) 0
    some (if negative then -size else size, rest.dropWhile Char.isDigit)

/-- What follows the significand: an optional exponent. -/
def finish?
    (negative : Bool)
    (significand : Nat)
    (exponent : Int)
    (characters : List Char) : Option (Json × List Char) :=
  match characters with
  | 'e' :: rest | 'E' :: rest => do
      let (shift, rest) ← exponentPart? rest
      let number ← real? negative significand (exponent + shift)
      some (number, rest)
  | rest => (real? negative significand exponent).map fun number => (number, rest)

/-- A numeral after its sign. -/
def unsigned?
    (negative : Bool)
    (characters : List Char) : Option (Json × List Char) :=
  let whole := characters.takeWhile Char.isDigit
  let rest := characters.dropWhile Char.isDigit
  if whole.isEmpty || (whole.length != 1 && whole.head? == some '0') then
    none
  else
    let (significand, dropped) := gather 0 whole
    match rest with
    | '.' :: rest =>
        let places := rest.takeWhile Char.isDigit
        if places.isEmpty then
          none
        else
          let (significand, left) := gather significand places
          finish? negative significand
            ((dropped.length : Int) - ((places.length - left.length : Nat) : Int))
            (rest.dropWhile Char.isDigit)
    | 'e' :: _ | 'E' :: _ => finish? negative significand dropped.length rest
    | _ =>
        if dropped.isEmpty then
          some (integer negative significand, rest)
        else
          finish? negative significand dropped.length rest

/-- A numeral at the front of a text. -/
def read? : List Char → Option (Json × List Char)
  | '-' :: rest => unsigned? true rest
  | rest => unsigned? false rest

end Numeral
end Json
end WorkloadPolicy
