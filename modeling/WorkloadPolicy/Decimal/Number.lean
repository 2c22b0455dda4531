/-!
# Reading numbers

A number text is an optional sign followed by `inf`, `infinity` or `nan` in
any case, or by decimal digits with at most one point among or beside them and
an optional exponent.  No blanks and no separators are allowed.  The digits
are read as the nearest `Float`.
-/

namespace WorkloadPolicy
namespace Decimal

/-- The value of a list of decimal digits. -/
def digitsValue (digits : List Char) : Nat :=
  digits.foldl (fun value digit => 10 * value + (digit.toNat - 48)) 0

/-- The `Float` nearest to `coefficient * 10 ^ exponent`.  Exponents beyond
the range of the type are settled without computing the power. -/
def nearest (coefficient : Nat) (exponent : Int) : Float :=
  if coefficient = 0 then
    0.0
  else
    let magnitude := ((Nat.toDigits 10 coefficient).length : Int) + exponent
    if 400 < magnitude then
      Float.ofBits 0x7FF0000000000000
    else if magnitude < -400 then
      0.0
    else if exponent < 0 then
      Float.ofScientific coefficient true (-exponent).toNat
    else
      Float.ofScientific coefficient false exponent.toNat

/-- An optional sign; `true` for a minus. -/
def takeSign : List Char → Bool × List Char
  | '-' :: rest => (true, rest)
  | '+' :: rest => (false, rest)
  | rest => (false, rest)

/-- The exponent part, which must end the text. -/
def exponent? : List Char → Option Int
  | [] => some 0
  | mark :: rest =>
      if mark = 'e' ∨ mark = 'E' then
        let (negative, digits) := takeSign rest
        if digits.isEmpty || !digits.all Char.isDigit then
          none
        else
          let size : Int := digitsValue digits
          some (if negative then -size else size)
      else
        none

/-- Digits, point and exponent, without a sign. -/
def unsigned? (characters : List Char) : Option Float :=
  let whole := characters.takeWhile Char.isDigit
  let afterWhole := characters.dropWhile Char.isDigit
  let (places, afterPlaces) :=
    match afterWhole with
    | '.' :: rest => (rest.takeWhile Char.isDigit, rest.dropWhile Char.isDigit)
    | rest => ([], rest)
  if whole.isEmpty && places.isEmpty then
    none
  else
    (exponent? afterPlaces).map fun exponent =>
      nearest (digitsValue (whole ++ places)) (exponent - (places.length : Int))

/-- Change the sign bit of a number if asked to. -/
def withSign (negative : Bool) (number : Float) : Float :=
  if negative then -number else number

/-- Read a number text. -/
def number? (text : String) : Option Float :=
  let (negative, rest) := takeSign text.toList
  let name := String.ofList (rest.map Char.toLower)
  if name = "inf" ∨ name = "infinity" then
    some (withSign negative (Float.ofBits 0x7FF0000000000000))
  else if name = "nan" then
    some (Float.ofBits 0x7FF8000000000000)
  else
    (unsigned? rest).map (withSign negative)

end Decimal
end WorkloadPolicy
